import RawrtcDataChannel.Closing.Routines

/-!
# Creating channels and serving events

The routines of the event loop keep `Settled`: they are only entered when nothing is suspended, and
a channel the peer opens is registered while the transport is connected. Creating a channel keeps
`Settled` if the slot it takes has not been emptied.
-/

namespace RawrtcDataChannel

open Reentrant

variable {answers : Answers} {a : Call} {fs : List (Call × Op)} {s₀ s : Transport} {c : ChannelId}
  {i : Nat}

/-! ## Section 1: Registering a channel -/

/-- A new channel can be registered with this context. -/
structure Registrable (fs : List (Call × Op)) (c : ChannelId) (context : Context) (s : Transport) :
    Prop where
  new : (s.view.channels c).sid = none
  made : c < s.nextChannel
  open_ : (s.dataChannels c).state ≠ .closed
  free : s.channels context.sid = none
  inRange : context.sid < s.nChannels
  ahead : ¬ Emptied fs s.view context.sid

/-- `channel_register`. A channel is only announced when nothing is suspended. -/
theorem channelRegister_settles {context : Context} (hs : Settled fs s.view)
    (hr : Registrable fs c context s) (raiseEvent : Bool) (hraise : raiseEvent = true → fs = []) :
    ((channelRegister c context raiseEvent).run s).Safe (vacating answers) a fs s₀
      fun _ s' => Settled fs s'.view ∧ Stable s s' := by
  have hview := s.view_register c context
  let t : Transport := ((s.modifyChannel c ({ · with transportArg := some context })).setSlot
    context.sid (some c)).log (.slotRef c (s.channels context.sid))
  have ht : Settled fs t.view := by
    rw [hview]
    exact hs.register hr.free (fun h => h.elim id hr.ahead) hr.inRange hr.new hr.made
  have hstable : Stable s t := by
    unfold Stable
    rw [hview]
    refine ⟨?_, rfl⟩
    intro c' i hsid
    rw [View.sid_register, if_neg]
    · exact hsid
    · rintro rfl
      rw [hr.new] at hsid
      cases hsid
  have hsid : (t.view.channels c).sid = some context.sid := by
    rw [hview, View.sid_register, if_pos rfl]
  have hopen : (t.view.channels c).state ≠ .closed := by
    rw [hview, View.state_register]
    exact hr.open_
  -- the end of the routine: the channel is opened if the transport is connected
  have hend : ∀ s₁, Settled fs s₁.view → Stable t s₁ →
      (s₁.state = .connected → (s₁.dataChannels c).state ≠ .closed) →
      (if s₁.state = .connected then (dataChannelSetState c .opened).run s₁
        else .ret () s₁).Safe (vacating answers) a fs s₀
          fun _ s' => Settled fs s'.view ∧ Stable s s' := by
    intro s₁ hs₁ hstable₁ hopen₁
    have htrans : Stable s s₁ := trans_of Stable hstable hstable₁
    split
    · next hconnected =>
      apply (dataChannelSetState_settles hs₁ (hopen₁ hconnected) (by decide)).mono
      intro _ s' h
      exact ⟨h.1, trans_of Stable htrans h.2⟩
    · exact ⟨hs₁, htrans⟩
  simp only [channelRegister, takeSlot, Routine.run_bind, Routine.run_modify, Routine.run_get,
    run_logEvent, Prog.bind, Routine.run_ite, Routine.run_pure]
  change Prog.Safe _ _ _ _ _ (if raiseEvent ∧ t.dataChannelHandler then _ else _)
  split
  · next hcalls =>
    obtain rfl := hraise hcalls.1
    simp only [Prog.safe_bind, run_callHandler]
    have ht' := ht.calm (Calm.log t (.handler (.dataChannelHandler c)))
    have hslots : (Handler.dataChannelHandler c).LeavesSlots := trivial
    refine ⟨⟨fun _ => ht'.push ?_ ?_ ?_ ?_ ?_, trivial⟩, ?_⟩
    · exact fun _ => False.elim
    · exact fun j hj => absurd hj hslots.not_empties
    · exact False.elim
    · intro c' heq
      cases heq
    · intro c' heq
      cases heq
      refine ⟨?_, hopen⟩
      change (t.view.channels c).sid ≠ none
      rw [hsid]
      exact Option.some_ne_none _
    · intro _ s₁ hs₁ hstable₁ _
      have hsettled := hs₁ fun f hf => by cases hf; rfl
      have hstable₂ : Stable (t.log (.handler (.dataChannelHandler c))) s₁ := hstable₁
      apply hend s₁ (hsettled.pop_leavesSlots hslots)
      · exact (ht.stable (Calm.log t _)).trans hstable₂
      · -- if somebody has closed the channel, the transport has been closed, too
        intro hconnected hclosed
        have hshut := (hsettled.registering (registering_cons.mpr (.inl rfl))).2 hclosed
        rcases hshut.resolve_left id with hstate | ⟨f, hf, hcloses⟩
        · exact absurd (hconnected.symm.trans hstate) (by decide)
        · obtain rfl := List.mem_singleton.mp hf
          exact hslots.not_closesTransport hcloses
  · exact hend t ht (refl_of Stable t) fun _ => hopen

/-! ## Section 2: Creating a channel -/

/-- The transport with a new channel, which is not in a slot yet. -/
abbrev Transport.allocate (t : Transport) (parameters : DataChannelParameters)
    (handlers : DataChannelHandlers) : Transport :=
  { t with nextChannel := t.nextChannel + 1 }.modifyChannel t.nextChannel
    fun _ => { parameters, handlers }

/-- A slot that `channel_create_handler` may take: the one with the given id, or the first free one
    for the role of the DTLS transport, if that is connected and the OPEN message can be written. -/
def Transport.MayTake (t : Transport) (answers : Answers) (parameters : DataChannelParameters)
    (i : Nat) : Prop :=
  if parameters.negotiated then
    i = parameters.id ∧ ¬ (sidMax < parameters.id ∨ t.nChannels ≤ parameters.id ∨
      t.channels parameters.id ≠ none)
  else
    answers .stateGetter t (.ok .connected) ∧
    (∃ role first j, answers .roleGetter t (.ok role) ∧ firstSid role = some first ∧
      findFreeSid t t.nChannels first = some j ∧ i = j % 2 ^ 16) ∧
    ¬ (2 ^ 16 - 1 < (stringBytes parameters.label).length ∨
      2 ^ 16 - 1 < (stringBytes parameters.protocol).length)

/-- The slot that the new channel may take has not been emptied. -/
def SparesEmptied (answers : Answers) (fs : List (Call × Op)) (t : Transport)
    (parameters : DataChannelParameters) (handlers : DataChannelHandlers) : Prop :=
  ∀ i, (t.allocate parameters handlers).MayTake answers parameters i → ¬ Emptied fs t.view i

theorem Transport.MayTake.free {t : Transport} {parameters : DataChannelParameters}
    (h : t.MayTake answers parameters i) : t.channels i = none ∧ i < t.nChannels := by
  unfold Transport.MayTake at h
  split at h
  · obtain ⟨rfl, hfree⟩ := h
    simp only [not_or, not_lt, not_le, not_not] at hfree
    exact ⟨hfree.2.2, hfree.2.1⟩
  · obtain ⟨-, ⟨role, first, j, -, -, hj, rfl⟩, -⟩ := h
    obtain ⟨hlt, hfree⟩ := findFreeSid_eq_some hj
    have hbound := t.nChannels_le
    have hmod : j % 2 ^ 16 = j := Nat.mod_eq_of_lt (by omega)
    rw [hmod]
    exact ⟨hfree, hlt⟩

section Create

variable [MessageBuffer]

/-- The part of `channel_create_handler` that chooses the slot. -/
def chooseContext (parameters : DataChannelParameters) : M (Except Code Context) :=
  if parameters.negotiated then channelCreateNegotiated parameters
  else channelCreateInband parameters

theorem channelCreateHandler_eq (c : ChannelId) (parameters : DataChannelParameters) :
    channelCreateHandler c parameters = chooseContext parameters >>= registerCreatedChannel c := by
  unfold channelCreateHandler chooseContext
  split <;> rfl

theorem chooseContext_within (parameters : DataChannelParameters) :
    (chooseContext parameters).Within Op.IsSystem Calm := by
  apply Routine.Within.ite
  · exact channelCreateNegotiated_within parameters
  · exact channelCreateInband_within parameters

/-- Either nothing happens, or there is a slot the channel may take. -/
theorem chooseContext_takes (answers : Answers) (parameters : DataChannelParameters)
    (s : Transport) :
    ((chooseContext parameters).run s).Always answers fun r s' =>
      (∃ error, error ≠ .success ∧ r = .error error ∧ s' = s) ∨
      ∃ i, s.MayTake answers parameters i ∧ ∀ context, r = .ok context → context.sid = i := by
  -- the context has the stream it is made for, if there is memory for it
  have hcontext : ∀ sid canSendUnordered,
      ((channelContextCreate sid canSendUnordered).run s).Always answers fun r s' =>
        s' = s ∧ (∀ error, r = .error error → error ≠ .success) ∧
          ∀ context, r = .ok context → context.sid = sid := by
    intro sid canSendUnordered ok _
    cases ok with
    | false =>
      refine ⟨rfl, ?_, ?_⟩
      · rintro error ⟨⟩
        decide
      · rintro context ⟨⟩
    | true =>
      refine ⟨rfl, ?_, ?_⟩
      · rintro error ⟨⟩
      · rintro context ⟨⟩
        rfl
  unfold chooseContext
  rw [Routine.run_ite]
  split
  · -- negotiated: the application has chosen the stream, which has to be free
    next hnegotiated =>
    simp only [channelCreateNegotiated, Routine.run_bind, Routine.run_get, Prog.bind,
      Routine.run_ite]
    split
    · exact .inl ⟨_, Code.noConfusion, rfl, rfl⟩
    · next hfree =>
      apply Prog.Always.mono (hcontext parameters.id true)
      rintro r _ ⟨-, -, hsid⟩
      refine .inr ⟨parameters.id, ?_, hsid⟩
      unfold Transport.MayTake
      rw [if_pos hnegotiated]
      exact ⟨rfl, hfree⟩
  · -- in-band: every way out before the OPEN message leaves the transport as it is
    next hinband =>
    simp only [channelCreateInband, Routine.run_bind, run_stateGetter, Prog.bind]
    intro state hstate
    cases state with
    | error error => exact .inl ⟨_, Code.noConfusion, rfl, rfl⟩
    | ok state =>
      simp only [Routine.run_ite, Routine.run_bind, run_roleGetter, Prog.bind]
      split
      · exact .inl ⟨_, Code.noConfusion, rfl, rfl⟩
      · next hconnected =>
        obtain rfl := not_not.mp hconnected
        intro role hrole
        cases role with
        | error error => exact .inl ⟨_, Code.noConfusion, rfl, rfl⟩
        | ok role =>
          dsimp only
          cases hfirst : firstSid role with
          | none => exact .inl ⟨_, Code.noConfusion, rfl, rfl⟩
          | some first =>
            simp only [Routine.run_bind, Routine.run_get, Prog.bind]
            cases hfind : findFreeSid s s.nChannels first with
            | none => exact .inl ⟨_, Code.noConfusion, rfl, rfl⟩
            | some j =>
              simp only [Routine.run_bind, Prog.always_bind]
              apply Prog.Always.mono (hcontext (j % 2 ^ 16) false)
              rintro r s₁ ⟨rfl, herror, hsid⟩
              cases r with
              | error error => exact .inl ⟨error, herror error rfl, rfl, rfl⟩
              | ok context =>
                simp only [dataChannelOpenMessageCreate, Routine.run_bind, Prog.always_bind,
                  Routine.run_ite]
                split
                · exact .inl ⟨_, Code.noConfusion, rfl, rfl⟩
                · next hlength =>
                  -- from here on the channel may take this slot, whether or not sending succeeds
                  have htake : s₁.MayTake answers parameters (j % 2 ^ 16) := by
                    unfold Transport.MayTake
                    rw [if_neg hinband]
                    exact ⟨hstate, ⟨role, first, j, hrole, hfirst, hfind, rfl⟩, hlength⟩
                  simp only [run_alloc, Prog.bind]
                  intro ok _
                  cases ok with
                  | false => exact .inl ⟨_, Code.noConfusion, rfl, rfl⟩
                  | true =>
                    simp only [if_true, Routine.run_pure, Prog.always_ret, Routine.run_bind,
                      Prog.always_bind]
                    apply Prog.Always.mono (sendMessage_within (R := Calm) none context
                      { data := openMessageBytes parameters } ppidDcep s₁).always
                    intro error s₂ _
                    rw [Routine.run_ite]
                    split
                    · refine .inr ⟨_, htake, ?_⟩
                      rintro context' ⟨⟩
                      exact hsid context rfl
                    · exact .inr ⟨_, htake, fun _ heq => by cases heq⟩

/-- `channel_create_handler` for a new channel. -/
theorem channelCreateHandler_settles {parameters : DataChannelParameters}
    (hs : Settled fs s.view) (hnew : (s.view.channels c).sid = none) (hmade : c < s.nextChannel)
    (hopen : (s.dataChannels c).state ≠ .closed)
    (hspares : ∀ i, s.MayTake answers parameters i → ¬ Emptied fs s.view i) :
    ((channelCreateHandler c parameters).run s).Safe (vacating answers) a fs s₀
      fun _ s' => Settled fs s'.view ∧ Stable s s' := by
  have htakes := chooseContext_takes answers parameters s
  have hchoose := (chooseContext_within parameters s).safe (vacating_trusts answers) a fs s₀ htakes
  rw [channelCreateHandler_eq, Routine.run_bind, Prog.safe_bind]
  apply hchoose.mono
  intro r s₁ h₁
  obtain ⟨hcalm, htakes⟩ := h₁
  have hs₁ : Settled fs s₁.view := hs.calm hcalm
  cases r with
  | error error => exact ⟨hs₁, hs.stable hcalm⟩
  | ok context =>
    obtain ⟨_, htake, hsid⟩ := htakes.resolve_left (by simp)
    obtain rfl := hsid context rfl
    obtain ⟨hfree, hlt⟩ := htake.free
    have hahead : ¬ Emptied fs s.view context.sid := hspares context.sid htake
    obtain ⟨hsid, hstate⟩ := hcalm.old hmade
    have hr : Registrable fs c context s₁ :=
      ⟨hsid.trans hnew, hmade.trans_le hcalm.next, fun h => hopen (hstate.symm.trans h),
        (congrFun hcalm.slots _).trans hfree, hlt.trans_eq hcalm.nSlots.symm,
        fun h => hahead ((hs.emptied_iff hcalm).mp h)⟩
    simp only [registerCreatedChannel, Routine.run_bind, Prog.safe_bind]
    apply (channelRegister_settles hs₁ hr false (by simp)).mono
    intro _ s' h
    exact ⟨h.1, trans_of Stable (hs.stable hcalm) h.2⟩

/-- `rawrtc_data_channel_create`. -/
theorem dataChannelCreate_settles (ha : ¬ a.ClosesAll) (hs : Settled fs s.view)
    (parameters : DataChannelParameters) (handlers : DataChannelHandlers)
    (hspares : SparesEmptied answers fs s parameters handlers) :
    ((dataChannelCreate parameters handlers).run s).Safe (vacating answers) a fs s₀
      fun _ s' => Settled fs s'.view ∧ Stable s s' := by
  have halloc := (alloc_within (R := Calm) s).safe (vacating_trusts answers) a fs s₀
    (show (alloc.run s).Always answers fun _ s' => s' = s from fun _ _ => rfl)
  simp only [dataChannelCreate, dataChannelCreateInternal, Routine.run_bind, Prog.safe_bind]
  apply halloc.mono
  intro ok s₁ h₁
  obtain ⟨-, rfl⟩ := h₁
  rw [Routine.run_ite]
  split
  · simp only [Routine.run_bind, Routine.run_get, Routine.run_modify, Prog.bind, if_true,
      Prog.safe_bind]
    have hcalm := Calm.allocate s₁ parameters handlers
    have hview := s₁.view_allocate parameters handlers
    let t : Transport := s₁.allocate parameters handlers
    have ht : Settled fs t.view := hs.calm hcalm
    -- the new channel has no slot, so it is neither closing nor being registered
    have hchannel : t.view.channels s₁.nextChannel = ⟨.connecting, none, false⟩ := by
      rw [hview]
      exact View.channels_allocate_self _
    have hnew : (t.view.channels s₁.nextChannel).sid = none := by rw [hchannel]
    have hopen : (t.view.channels s₁.nextChannel).state ≠ .closed := by
      rw [hchannel]
      decide
    -- the condition on the call is about the slot that is going to be taken
    apply (channelCreateHandler_settles (c := s₁.nextChannel) ht hnew (Nat.lt_succ_self _) hopen
      fun i htake hemptied => hspares i htake ((hs.emptied_iff hcalm).mp hemptied)).mono
    intro error s₂ h₂
    have hstable : Stable s₁ s₂ := trans_of Stable (hs.stable hcalm) h₂.2
    have hreg : ¬ (ongoing fs).registering s₁.nextChannel :=
      fun h => (ht.registering h).1 hnew
    rw [Routine.run_ite]
    split
    · have hmodify : Settles answers a fs (modify (·.modifyChannel s₁.nextChannel fun ch =>
          { ch with flags := { ch.flags with initialized := true } }) : M Unit) :=
        modifyChannel_settles _ fun _ => ⟨rfl, rfl⟩
      have hend := hmodify.bind fun _ =>
        Routine.guarded_pure (.ok s₁.nextChannel : Except Code ChannelId)
      apply (hend s₀ s₂ h₂.1).mono
      intro _ s' h
      exact ⟨h.1, trans_of Stable hstable h.2⟩
    · have hdestroy : Settles answers a fs (dataChannelDestroy s₁.nextChannel) :=
        dataChannelDestroy_settles ha hreg
      have hend := hdestroy.bind fun _ =>
        Routine.guarded_pure (.error error : Except Code ChannelId)
      apply (hend s₀ s₂ h₂.1).mono
      intro _ s' h
      exact ⟨h.1, trans_of Stable hstable h.2⟩
  · exact ⟨hs, refl_of Stable _⟩

end Create

/-! ## Section 3: Events of channels -/

theorem passMessageToHandler_settles (c : ChannelId) (buffer : Mbuf) (ppid : Nat)
    (isComplete : Bool) : Settles answers a fs (passMessageToHandler c buffer ppid isComplete) := by
  have hrelease : Settles answers a fs (modify (·.modifyContext c Context.releaseInbound) : M Unit) :=
    modifyContext_settles c fun _ => rfl
  apply Routine.guarded_get.bind
  intro t
  cases messageFlagsOfPpid ppid isComplete with
  | none => exact hrelease
  | some messageFlags =>
    apply Routine.Guarded.ite
    · have hord : (Handler.messageHandler c (some buffer.rest) messageFlags).Ordinary := trivial
      exact (callHandler_settles hord).bind fun _ => hrelease
    · exact hrelease

/-- `handle_application_message`. -/
theorem handleApplicationMessage_settles (buffer : Mbuf) (info : RcvInfo) (eor : Bool) :
    Settles answers a fs (handleApplicationMessage buffer info eor) := by
  have hstore : ∀ c inbound pending, Settles answers a fs
      (modify (·.modifyContext c (Context.storeInbound inbound pending)) : M Unit) :=
    fun c _ _ => modifyContext_settles c fun _ => rfl
  have hrelease : ∀ c, Settles answers a fs
      (modify (·.modifyContext c Context.releaseInbound) : M Unit) :=
    fun c => modifyContext_settles c fun _ => rfl
  have hkeep : ∀ c inbound kept, Settles answers a fs
      (modify (·.modifyContext c (Context.keepInbound inbound kept)) : M Unit) :=
    fun c _ _ => modifyContext_settles c fun _ => rfl
  have hallow : ∀ c, Settles answers a fs
      (modify (·.modifyContext c Context.allowUnordered) : M Unit) :=
    fun c => modifyContext_settles c fun _ => rfl
  apply Routine.guarded_get.bind
  intro t
  cases t.channels info.rcvSid with
  | none => exact Routine.guarded_pure _
  | some c =>
    apply (hallow c).bind
    intro _
    apply Routine.guarded_get.bind
    intro t
    apply Routine.Guarded.ite
    · apply Routine.Guarded.ite (hrelease c)
      exact (hstore c _ _).bind fun _ => passMessageToHandler_settles _ _ _ _
    · apply Routine.Guarded.ite
      · apply (settles_of_within (bufferMessageReceivedRaiseComplete_within _ _ _ _ _)).bind
        intro r
        obtain ⟨error, bufferInbound, infoInbound⟩ := r
        apply (hkeep c _ _).bind
        intro _
        split
        · exact (hstore c _ _).bind fun _ => passMessageToHandler_settles _ _ _ _
        · exact hstore c _ _
        · exact hrelease c
      · exact (hstore c _ _).bind fun _ => passMessageToHandler_settles _ _ _ _

/-- `handle_data_channel_ack_message`. -/
theorem handleDataChannelAckMessage_settles (info : RcvInfo) :
    Settles answers a fs (handleDataChannelAckMessage info) := by
  apply Routine.guarded_get.bind
  intro t
  cases t.channels info.rcvSid with
  | none => exact Routine.guarded_pure _
  | some c =>
    have hallow : Settles answers a fs (modify (·.modifyContext c Context.allowUnordered) : M Unit) :=
      modifyContext_settles c fun _ => rfl
    exact Routine.Guarded.ite (Routine.guarded_pure _) hallow

/-- `handle_partial_delivery_event`. -/
theorem handlePartialDeliveryEvent_settles (pdapiStream : Nat) :
    Settles answers a fs (handlePartialDeliveryEvent pdapiStream) := by
  apply Routine.guarded_get.bind
  intro t
  apply Routine.Guarded.ite (Routine.guarded_pure _)
  cases t.channels pdapiStream with
  | none => exact Routine.guarded_pure _
  | some c =>
    have hstore : Settles answers a fs
        (modify (·.modifyContext c (Context.storeInbound none false)) : M Unit) :=
      modifyContext_settles c fun _ => rfl
    have hord : (Handler.messageHandler c none { isAborted := true }).Ordinary := trivial
    apply hstore.bind
    intro _
    apply Routine.guarded_get.bind
    intro t
    exact Routine.Guarded.ite (callHandler_settles hord) (Routine.guarded_pure _)

/-! ## Section 4: Events that may close a channel -/

theorem not_closing_nil (c : ChannelId) : ¬ (ongoing []).closing c := by
  simp [ongoing]

theorem not_registering_idle (c : ChannelId) : ¬ (ongoing []).registering c := by
  simp [ongoing]

theorem serveSlot_settles (ha : ¬ a.ClosesAll) (i : Nat) : Settles answers a [] (serveSlot i) := by
  intro s₀ s hs
  simp only [serveSlot, Routine.run_bind, Routine.run_get, Prog.bind]
  cases hslot : s.channels i with
  | none => exact ⟨hs, refl_of Stable s⟩
  | some c =>
    simp only [Routine.run_ite]
    split
    · simp only [Routine.run_bind, Prog.safe_bind]
      apply (resetOutgoingStream_settles ha hs hslot (not_registering_idle c)
        (not_closing_nil c)).mono
      intro _ s₁ h₁
      have hcalm : Calm s₁ (s₁.modifyContext c (Context.setPendingStreamReset false)) :=
        Calm.modifyContext s₁ c _ fun _ => rfl
      exact ⟨h₁.1.calm hcalm, trans_of Stable h₁.2.1 (h₁.1.stable hcalm)⟩
    · have hord : (Handler.bufferedAmountLowHandler c).Ordinary := trivial
      have hraise : Settles answers a [] (raiseBufferedAmountLowEvent c) := by
        apply Routine.guarded_get.bind
        intro t
        exact Routine.Guarded.ite (callHandler_settles hord) (Routine.guarded_pure _)
      exact hraise s₀ s hs

theorem senderDryLoop_settles (ha : ¬ a.ClosesAll) (stop fuel i : Nat) :
    Settles answers a [] (senderDryLoop stop fuel i) := by
  induction fuel generalizing i with
  | zero => exact Routine.guarded_pure _
  | succ fuel ih =>
    unfold senderDryLoop
    apply (serveSlot_settles ha i).bind
    intro _
    apply Routine.guarded_get.bind
    intro t
    apply Routine.Guarded.ite (Routine.guarded_pure _)
    exact Routine.Guarded.ite (ih _) (Routine.guarded_pure _)

/-- `handle_sender_dry_event`. -/
theorem handleSenderDryEvent_settles (ha : ¬ a.ClosesAll) :
    Settles answers a [] handleSenderDryEvent := by
  have hlow : Settles answers a [] (modify fun t : Transport =>
      { t with flags := { t.flags with bufferedAmountLow := true } } : M Unit) :=
    settles_modify fun s => ⟨rfl, rfl, Iff.rfl, le_refl _, fun _ => .inl ⟨rfl, rfl⟩⟩
  have hturn : ∀ i, Settles answers a [] (modify ({ · with currentChannelSid := i }) : M Unit) :=
    fun i => settles_modify fun s => ⟨rfl, rfl, Iff.rfl, le_refl _, fun _ => .inl ⟨rfl, rfl⟩⟩
  apply Routine.guarded_get.bind
  intro t
  apply Routine.Guarded.ite (Routine.guarded_pure _)
  apply hlow.bind
  intro _
  exact (senderDryLoop_settles ha _ _ _).bind hturn

/-- The end of the loop body of `handle_stream_reset_event`, for a registered channel. -/
theorem closeIfBothReset_settles (ha : ¬ a.ClosesAll) (hs : Settled [] s.view)
    (hslot : s.channels i = some c) :
    ((closeIfBothReset c).run s).Safe (vacating answers) a [] s₀
      fun _ s' => Settled [] s'.view ∧ Stable s s' := by
  simp only [closeIfBothReset, Routine.run_bind, Routine.run_get, Prog.bind, Routine.run_ite]
  split
  · simp only [Prog.safe_bind]
    apply (dataChannelSetState_closed_settles (hs.apart ha) hslot
      fun h => absurd h (not_registering_idle c)).mono
    intro _ s₁ h₁
    obtain ⟨hv₁, hstable₁, hclosed₁⟩ := h₁
    simp only [Prog.safe_ret, run_clearSlot]
    refine ⟨clearSlot_settles (hv₁.settled ha) hclosed₁ (not_closing_nil c), ?_⟩
    exact trans_of Stable hstable₁ (Stable.setSlot _ _ _ _)
  · exact ⟨hs, refl_of Stable s⟩

theorem Calm.modifyFlags (s : Transport) (c : ChannelId)
    (f : DataChannelFlags → DataChannelFlags) :
    Calm s (s.modifyChannel c fun ch => { ch with flags := f ch.flags }) :=
  Calm.modifyChannel s c _ ⟨rfl, rfl⟩

/-- The channel stays in its slot if it is not closed because of an error. -/
theorem handleIncomingStreamReset_settles (ha : ¬ a.ClosesAll) (hs : Settled [] s.view)
    (hslot : s.channels i = some c) :
    ((handleIncomingStreamReset c).run s).Safe (vacating answers) a [] s₀ fun closed s' =>
      Settled [] s'.view ∧ Stable s s' ∧ (closed = false → s'.channels i = some c) := by
  have hcalm := Calm.modifyFlags s c ({ · with incomingStreamReset := true })
  simp only [handleIncomingStreamReset, Routine.run_bind, Routine.run_modify, Routine.run_get,
    Prog.bind, Routine.run_ite]
  generalize s.modifyChannel c _ = s₁ at hcalm ⊢
  have hs₁ : Settled [] s₁.view := hs.calm hcalm
  have hslot₁ : s₁.channels i = some c := (congrFun hcalm.slots i).trans hslot
  have hstable₁ : Stable s s₁ := hs.stable hcalm
  split
  · next hstate =>
    simp only [Prog.safe_bind]
    apply (resetOutgoingStream_settles ha hs₁ hslot₁ (not_registering_idle c)
      (not_closing_nil c)).mono
    intro error s₂ h₂
    obtain ⟨hs₂, hstable₂, hcalm₂⟩ := h₂
    have hstable : Stable s s₂ := trans_of Stable hstable₁ hstable₂
    simp only [ne_eq, Routine.run_pure]
    split
    · exact ⟨hs₂, hstable, by simp⟩
    · next hsuccess =>
      have hcalm₃ := hcalm₂ (not_not.mp hsuccess)
      have hsame := (hcalm₃.channel (hs₁.sid_of_slot hslot₁) hs₁.unregistered_of_next_le).2
      have hopen : (s₂.view.channels c).state ≠ .closed := by
        rw [hsame]
        exact hstate.2
      simp only [run_dataChannelSetState_closing, Prog.bind]
      refine ⟨?_, trans_of Stable hstable (Stable.setChannelState _ _ _), ?_⟩
      · rw [s₂.view_setState]
        exact hs₂.setChannelState (fun _ => hopen) (by simp)
      · exact fun _ => (congrFun hcalm₃.slots i).trans hslot₁
  · exact ⟨hs₁, hstable₁, fun _ => hslot₁⟩

/-- The loop body of `handle_stream_reset_event`. -/
theorem handleStreamReset_settles (ha : ¬ a.ClosesAll) (event : StreamResetEvent) (sid : Nat) :
    Settles answers a [] (handleStreamReset event sid) := by
  intro s₀ s hs
  simp only [handleStreamReset, Routine.run_bind, Routine.run_get, Prog.bind, Routine.run_ite]
  split
  · exact ⟨hs, refl_of Stable s⟩
  · cases hslot : s.channels sid with
    | none => exact ⟨hs, refl_of Stable s⟩
    | some c =>
      -- what follows the part for incoming resets
      have hend : ∀ (closed : Bool) s₁, Settled [] s₁.view → Stable s s₁ →
          (closed = false → s₁.channels sid = some c) →
          (Routine.run (if closed then return () else do
            if event.outgoingSsn then
              modify (·.modifyChannel c fun ch =>
                { ch with flags := { ch.flags with outgoingStreamReset := true } })
            closeIfBothReset c : M Unit) s₁).Safe (vacating answers) a [] s₀
            fun _ s' => Settled [] s'.view ∧ Stable s s' := by
        intro closed s₁ hs₁ hstable₁ hslot₁
        rw [Routine.run_ite]
        split
        · exact ⟨hs₁, hstable₁⟩
        · next hopen =>
          have hslot₁ := hslot₁ (Bool.eq_false_iff.mpr hopen)
          rw [Routine.run_ite]
          split
          · have hcalm := Calm.modifyFlags s₁ c ({ · with outgoingStreamReset := true })
            have hslot₂ := (congrFun hcalm.slots sid).trans hslot₁
            simp only [Routine.run_bind, Routine.run_modify, Prog.bind]
            apply (closeIfBothReset_settles ha (hs₁.calm hcalm) hslot₂).mono
            intro _ s' h
            exact ⟨h.1, trans_of Stable hstable₁ (trans_of Stable (hs₁.stable hcalm) h.2)⟩
          · apply (closeIfBothReset_settles ha hs₁ hslot₁).mono
            intro _ s' h
            exact ⟨h.1, trans_of Stable hstable₁ h.2⟩
      dsimp only
      rw [Routine.run_ite]
      split
      · rw [Routine.run_bind, Prog.safe_bind]
        apply (handleIncomingStreamReset_settles ha hs hslot).mono
        intro closed s₁ h₁
        exact hend closed s₁ h₁.1 h₁.2.1 h₁.2.2
      · exact hend false s hs (refl_of Stable s) fun _ => hslot

/-- `handle_stream_reset_event`. -/
theorem handleStreamResetEvent_settles (ha : ¬ a.ClosesAll) (event : StreamResetEvent) :
    Settles answers a [] (handleStreamResetEvent event) := by
  apply Routine.Guarded.ite (Routine.guarded_pure _)
  induction event.strresetStreamList with
  | nil => exact Routine.guarded_pure _
  | cons sid sids ih => exact (handleStreamReset_settles ha event sid).bind fun _ => ih

/-! ## Section 5: Messages of the peer -/

section Messages

variable [MessageBuffer]

/-- A channel that has been made and waits to be registered. -/
structure Unregistered (c : ChannelId) (s : Transport) : Prop where
  new : (s.view.channels c).sid = none
  made : c < s.nextChannel
  open_ : (s.view.channels c).state ≠ .closed

omit [MessageBuffer] in
theorem Unregistered.calm {t : Transport} (h : Unregistered c s) (hcalm : Calm s t) :
    Unregistered c t := by
  obtain ⟨hsid, hstate⟩ := hcalm.old h.made
  exact ⟨hsid.trans h.new, h.made.trans_le hcalm.next, fun heq => h.open_ (hstate.symm.trans heq)⟩

/-- Making a channel without registering it. -/
theorem dataChannelCreateInternal_unregistered (parameters : DataChannelParameters)
    (handlers : DataChannelHandlers) (s : Transport) :
    ((dataChannelCreateInternal parameters handlers false).run s).Within Op.IsSystem
      fun r s' => Calm s s' ∧ ∀ c, r = .ok c → Unregistered c s' := by
  refine ⟨rfl, ?_⟩
  intro ok
  cases ok with
  | false =>
    refine ⟨refl_of Calm s, ?_⟩
    intro c heq
    cases heq
  | true =>
    have hallocate := Calm.allocate s parameters handlers
    have hview := s.view_allocate parameters handlers
    have hchannel := View.channels_allocate_self s.view
    rw [← hview] at hchannel
    let t : Transport := { s with nextChannel := s.nextChannel + 1 }.modifyChannel s.nextChannel
      fun _ => { parameters, handlers }
    have ht : Unregistered s.nextChannel t :=
      ⟨congrArg ChannelView.sid hchannel, Nat.lt_succ_self _,
        (congrArg ChannelView.state hchannel).trans_ne (by decide)⟩
    have hflags := Calm.modifyFlags t s.nextChannel ({ · with initialized := true })
    refine ⟨trans_of Calm hallocate hflags, ?_⟩
    intro c heq
    cases heq
    exact ht.calm hflags

/-- `acknowledge_and_register` for a channel in a free slot of a transport that is not closed. -/
theorem acknowledgeAndRegister_settles (hs : Settled [] s.view) (hc : Unregistered c s)
    (info : RcvInfo) (hfree : s.channels info.rcvSid = none) (hlt : info.rcvSid < s.nChannels)
    (hopen : s.state ≠ .closed) :
    ((acknowledgeAndRegister c info).run s).Safe (vacating answers) a [] s₀
      fun _ s' => Settled [] s'.view ∧ Stable s s' := by
  -- the context is for the stream of the OPEN message
  have hcontext : ((channelContextCreate info.rcvSid true).run s).Within Op.IsSystem
      fun r s' => s' = s ∧ ∀ context, r = .ok context → context.sid = info.rcvSid := by
    refine ⟨rfl, ?_⟩
    intro ok
    cases ok with
    | false =>
      refine ⟨rfl, ?_⟩
      intro context heq
      cases heq
    | true =>
      refine ⟨rfl, ?_⟩
      intro context heq
      cases heq
      rfl
  simp only [acknowledgeAndRegister, Routine.run_bind, Prog.safe_bind]
  apply (hcontext.safe (vacating_trusts answers) a [] s₀ hcontext.always).mono
  intro r s₁ h₁
  obtain ⟨⟨rfl, hsid⟩, -⟩ := h₁
  cases r with
  | error error => exact ⟨hs, refl_of Stable _⟩
  | ok context =>
    -- neither making the ACK message nor sending it changes a slot
    have hack := dataChannelAckMessageCreate_within (R := Calm) s₁
    simp only [Routine.run_bind, Prog.safe_bind]
    apply (hack.safe (vacating_trusts answers) a [] s₀ hack.always).mono
    intro r s₂ h₂
    have hcalm₂ : Calm s₁ s₂ := h₂.1
    cases r with
    | error error => exact ⟨hs.calm hcalm₂, hs.stable hcalm₂⟩
    | ok bufferOut =>
      have hsend := sendMessage_within (R := Calm) none context bufferOut ppidDcep s₂
      simp only [Routine.run_bind, Prog.safe_bind]
      apply (hsend.safe (vacating_trusts answers) a [] s₀ hsend.always).mono
      intro error s₃ h₃
      have hcalm : Calm s₁ s₃ := trans_of Calm hcalm₂ h₃.1
      have hs₃ : Settled [] s₃.view := hs.calm hcalm
      rw [Routine.run_ite]
      split
      · have hsid := hsid context rfl
        have hc₃ := hc.calm hcalm
        -- the transport is running and nothing is suspended, so no slot has been emptied
        have hahead : ¬ Emptied [] s₃.view context.sid := by
          rintro (hclosed | ⟨f, hf, -⟩)
          · exact hopen (hcalm.closed.mp hclosed)
          · cases hf
        have hr : Registrable [] c context s₃ :=
          ⟨hc₃.new, hc₃.made, hc₃.open_, hsid ▸ (congrFun hcalm.slots _).trans hfree,
            hsid ▸ hlt.trans_eq hcalm.nSlots.symm, hahead⟩
        rw [Routine.run_bind, Prog.safe_bind]
        apply (channelRegister_settles hs₃ hr true fun _ => rfl).mono
        intro _ s' h
        exact ⟨h.1, trans_of Stable (hs.stable hcalm) h.2⟩
      · exact ⟨hs₃, hs.stable hcalm⟩

/-- `handle_data_channel_open_message` on a transport that is not closed. -/
theorem handleDataChannelOpenMessage_settles (ha : ¬ a.ClosesAll) (hs : Settled [] s.view)
    (bufferIn : Mbuf) (info : RcvInfo)
    (hlt : s.PeersSid answers info.rcvSid → info.rcvSid < s.nChannels) (hopen : s.state ≠ .closed) :
    ((handleDataChannelOpenMessage bufferIn info).run s).Safe (vacating answers) a [] s₀
      fun _ s' => Settled [] s'.view ∧ Stable s s' := by
  -- until there is a channel, every way out leaves the slots as they are
  have hdone : ∀ s', Calm s s' → Settled [] s'.view ∧ Stable s s' :=
    fun s' hcalm => ⟨hs.calm hcalm, hs.stable hcalm⟩
  have hsystem : (roleGetter : M _).Within Op.IsSystem Calm := system_within (o := .roleGetter) rfl
  have hanswer : (roleGetter.run s).Always answers fun role _ => answers .roleGetter s role :=
    fun _ hrole => hrole
  simp only [handleDataChannelOpenMessage, Routine.run_bind, Prog.safe_bind]
  apply ((hsystem s).safe (vacating_trusts answers) a [] s₀ hanswer).mono
  rintro role s₁ ⟨h₁, hrole⟩
  have hcalm₁ : Calm s s₁ := h₁
  cases role with
  | error error => exact hdone s₁ hcalm₁
  | ok dtlsRole =>
    rw [Routine.run_ite]
    split
    · exact hdone s₁ hcalm₁
    · next hparity =>
      -- the role lets the peer choose this stream, so its id is below the number of slots
      have hlt₁ : info.rcvSid < s.nChannels :=
        hlt ⟨dtlsRole, hrole, Bool.eq_true_of_not_eq_false hparity⟩
      simp only [Routine.run_bind, Routine.run_get, Prog.bind, Routine.run_ite]
      split
      · exact hdone s₁ hcalm₁
      · next hslot =>
        have hfree : s.channels info.rcvSid = none :=
          (congrFun hcalm₁.slots _).symm.trans (not_not.mp hslot)
        have hparse := dataChannelOpenMessageParse_within (R := Calm) info.rcvSid bufferIn s₁
        simp only [Prog.safe_bind]
        apply (hparse.safe (vacating_trusts answers) a [] s₀ hparse.always).mono
        intro parsed s₂ h₂
        have hcalm₂ : Calm s s₂ := trans_of Calm hcalm₁ h₂.1
        cases parsed with
        | error error => exact hdone s₂ hcalm₂
        | ok parsed =>
          have htransport := sctpTransportGetDataTransport_within (R := Calm) s₂
          simp only [Routine.run_bind, Prog.safe_bind]
          apply (htransport.safe (vacating_trusts answers) a [] s₀
            htransport.always).mono
          intro error s₃ h₃
          have hcalm₃ : Calm s s₃ := trans_of Calm hcalm₂ h₃.1
          rw [Routine.run_ite]
          split
          · exact hdone s₃ hcalm₃
          · have hcreate := dataChannelCreateInternal_unregistered parsed.1 {} s₃
            rw [Routine.run_bind, Prog.safe_bind]
            apply (hcreate.safe (vacating_trusts answers) a [] s₀
              hcreate.always).mono
            intro created s₄ h₄
            have hcalm₄ : Calm s s₄ := trans_of Calm hcalm₃ h₄.1.1
            cases created with
            | error error => exact hdone s₄ hcalm₄
            | ok c =>
              have hs₄ := hdone s₄ hcalm₄
              rw [Routine.run_bind, Prog.safe_bind]
              -- only now does the slot matter, and it is still free
              apply (acknowledgeAndRegister_settles hs₄.1 (h₄.1.2 c rfl) info
                ((congrFun hcalm₄.slots _).trans hfree) (hlt₁.trans_eq hcalm₄.nSlots.symm)
                fun hclosed => hopen (hcalm₄.closed.mp hclosed)).mono
              intro registered s₅ h₅
              have hstable₅ : Stable s s₅ := trans_of Stable hs₄.2 h₅.2
              rw [Routine.run_ite]
              split
              · -- not registered: the channel is destroyed again
                apply (dataChannelDestroy_settles ha (not_registering_idle c) s₀ s₅ h₅.1).mono
                intro _ s' h
                exact ⟨h.1, trans_of Stable hstable₅ h.2⟩
              · exact ⟨h₅.1, hstable₅⟩

end Messages

end RawrtcDataChannel
