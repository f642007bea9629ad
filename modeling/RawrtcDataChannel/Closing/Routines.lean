import RawrtcDataChannel.Closing.Emptied
import RawrtcDataChannel.Reentrant.Guarded
import RawrtcDataChannel.Transfer.SystemRoutines

/-!
# No routine fills an emptied slot

The routines of the library keep `Settled`, whatever the handlers do that they call. A routine that
closes a channel is the only one who does so, or it closes the transport and does not come back to
the slot. Creating a channel is the exception: it fills whichever slot it finds.
-/

namespace RawrtcDataChannel

open Reentrant

/-! ## Section 1: The contract -/

/-- The application is running: nothing is suspended, or a handler is. -/
def ApplicationsTurn (fs : List (Call × Op)) : Prop :=
  ∀ f ∈ fs.head?, f.2.isHandler = true

/-- What system functions and getters may return in which state. -/
abbrev Answers : Type :=
  (o : Op) → Transport → o.Reply → Prop

/-- The DTLS transport may have a role for which the other side may have chosen the stream id. -/
def Transport.PeersSid (t : Transport) (answers : Answers) (sid : Nat) : Prop :=
  ∃ role, answers .roleGetter t (.ok role) ∧ peerParity role sid = true

/-- Whenever the application is running, the emptied slots are empty. -/
def vacating (answers : Answers) : Contract Call Op Op.Reply Transport where
  inv fs s := ApplicationsTurn fs → Settled fs s.view
  since _ _ _ := True
  rely
    | [], s, s' => StableView s.view s'.view
    | (_, o) :: _, s, s' => if o.isHandler then StableView s.view s'.view else s' = s
  answers := answers

theorem vacating_trusts (answers : Answers) : (vacating answers).Trusts Op.IsSystem where
  inv o ho a fs s hturn := by
    have htrue := hturn (a, o) rfl
    rw [ho] at htrue
    cases htrue
  since _ _ _ _ := trivial
  rely o ho a fs s s' h := by
    have hsystem : o.isHandler = false := ho
    simpa only [vacating, hsystem, Bool.false_eq_true, if_false] using h

/-- What routines that leave the slots alone do. -/
def Calm (s s' : Transport) : Prop :=
  CalmView s.view s'.view

/-- What may happen while a routine is suspended. -/
def Stable (s s' : Transport) : Prop :=
  StableView s.view s'.view

instance : IsPreorder Transport Calm where
  refl s := CalmView.refl s.view
  trans _ _ _ := CalmView.trans

instance : IsPreorder Transport Stable where
  refl s := StableView.refl s.view
  trans _ _ _ := StableView.trans

theorem Calm.of_eq {s s' : Transport} (h : s'.view = s.view) : Calm s s' := by
  unfold Calm
  rw [h]
  exact .refl _

theorem Calm.log (s : Transport) (e : Event) : Calm s (s.log e) :=
  ⟨rfl, rfl, Iff.rfl, le_refl _, fun _ => .inl ⟨rfl, rfl⟩⟩

theorem Calm.of_sendsOnly {s s' : Transport} (h : SendsOnly s s') : Calm s s' := by
  obtain ⟨low, queue, es, rfl, -⟩ := h
  exact ⟨rfl, rfl, Iff.rfl, le_refl _, fun _ => .inl ⟨rfl, rfl⟩⟩

instance : SendFrame Calm where
  sends _ _ := Calm.of_sendsOnly
  log s _ _ := Calm.log s _

/-- Changes of a channel that keep its state and its stream id. -/
theorem Calm.modifyChannel (s : Transport) (c : ChannelId) (f : DataChannel → DataChannel)
    (hf : (f (s.dataChannels c)).view.state = (s.dataChannels c).view.state ∧
      (f (s.dataChannels c)).view.sid = (s.dataChannels c).view.sid) :
    Calm s (s.modifyChannel c f) := by
  refine ⟨rfl, rfl, Iff.rfl, le_refl _, ?_⟩
  intro c'
  left
  by_cases hc : c' = c
  · subst hc
    simpa [Transport.view, Transport.modifyChannel] using hf.symm
  · simp [Transport.view, Transport.modifyChannel, hc]

/-- Changes of a context that keep the stream id. -/
theorem Calm.modifyContext (s : Transport) (c : ChannelId) (f : Context → Context)
    (hf : ∀ x, (f x).sid = x.sid) : Calm s (s.modifyContext c f) := by
  apply Calm.modifyChannel
  cases hx : (s.dataChannels c).transportArg with
  | none => simp [DataChannel.view, hx]
  | some x => simp [DataChannel.view, hx, hf x]

/-- A new channel is not registered. -/
theorem Calm.allocate (s : Transport) (parameters : DataChannelParameters)
    (handlers : DataChannelHandlers) :
    Calm s ({ s with nextChannel := s.nextChannel + 1 }.modifyChannel s.nextChannel
      fun _ => { parameters, handlers }) := by
  unfold Calm
  rw [s.view_allocate]
  refine ⟨rfl, rfl, Iff.rfl, Nat.le_succ _, ?_⟩
  intro c
  by_cases hc : c = s.view.next
  · subst hc
    right
    rw [View.channels_allocate_self]
    exact ⟨le_refl _, Nat.lt_succ_self _, rfl, by decide⟩
  · left
    rw [View.channels_allocate_of_ne _ _ hc]
    exact ⟨rfl, rfl⟩

/-! ## Section 2: Routines that leave the slots alone -/

/-- The routine keeps the contract and leaves things settled. -/
abbrev Settles {α : Type} (answers : Answers) (a : Call) (fs : List (Call × Op)) (m : M α) : Prop :=
  m.Guarded (vacating answers) a fs (fun s => Settled fs s.view) Stable

variable {answers : Answers} {a : Call} {fs : List (Call × Op)} {s₀ s : Transport} {c : ChannelId}
  {i : Nat}

theorem settles_of_within {α : Type} {m : M α} (h : m.Within Op.IsSystem Calm) :
    Settles answers a fs m :=
  h.guarded (vacating_trusts answers) fun _ _ hs hcalm => ⟨hs.calm hcalm, hs.stable hcalm⟩

theorem settles_modify {f : Transport → Transport} (hf : ∀ s, Calm s (f s)) :
    Settles answers a fs (modify f : M Unit) :=
  settles_of_within (Routine.within_modify hf)

theorem modifyContext_settles (c : ChannelId) {f : Context → Context}
    (hf : ∀ x, (f x).sid = x.sid) : Settles answers a fs (modify (·.modifyContext c f) : M Unit) :=
  settles_modify fun s => Calm.modifyContext s c f hf

theorem logEvent_settles (e : Event) : Settles answers a fs (logEvent e) :=
  settles_modify fun s => Calm.log s e

/-- Calling a handler of which nobody depends. -/
theorem callHandler_settles {h : Handler} (hord : h.Ordinary) :
    Settles answers a fs (callHandler h) := by
  intro s₀ s hs
  rw [run_callHandler]
  have hlogged : Settled fs (s.log (.handler h)).view := hs.calm (Calm.log s _)
  refine ⟨⟨fun _ => hlogged.push_ordinary hord, trivial⟩, ?_⟩
  intro r s' hs' hstable _
  have hstable' : StableView (s.log (.handler h)).view s'.view := hstable
  exact ⟨(hs' (fun f hf => by cases hf; rfl)).pop_leavesSlots hord.leavesSlots,
    (hs.stable (Calm.log s _)).trans hstable'⟩

/-! ## Section 3: Changing the state of a channel -/

theorem Stable.setChannelState (s : Transport) (c : ChannelId) (state : DataChannelState) :
    Stable s ((s.modifyChannel c ({ · with state := state })).log (.channelState c state)) := by
  unfold Stable
  rw [s.view_setState]
  refine ⟨?_, rfl⟩
  intro c' i hsid
  rwa [View.sid_setChannelState]

/-- A channel is opened, or begins to close. -/
theorem dataChannelSetState_settles (hs : Settled fs s.view)
    (hopen : (s.dataChannels c).state ≠ .closed) {state : DataChannelState}
    (hstate : state ≠ .closed) :
    ((dataChannelSetState c state).run s).Safe (vacating answers) a fs s₀
      fun _ s' => Settled fs s'.view ∧ Stable s s' := by
  simp only [dataChannelSetState, Routine.run_bind, Routine.run_modify, run_logEvent,
    Routine.run_get, Prog.bind]
  have hstable := Stable.setChannelState s c state
  have hsettled : Settled fs
      ((s.modifyChannel c ({ · with state := state })).log (.channelState c state)).view := by
    rw [s.view_setState]
    exact hs.setChannelState (fun _ => hopen) fun heq => absurd heq hstate
  generalize (s.modifyChannel c _).log _ = s₁ at hstable hsettled ⊢
  -- only OPEN is reported to the application here
  cases state with
  | opened =>
    simp only [Routine.run_ite]
    split
    · have hord : (Handler.openHandler c).Ordinary := trivial
      apply (callHandler_settles (a := a) hord s₀ s₁ hsettled).mono
      intro _ s' h
      exact ⟨h.1, trans_of Stable hstable h.2⟩
    · exact ⟨hsettled, hstable⟩
  | connecting | closing => exact ⟨hsettled, hstable⟩
  | closed => exact absurd rfl hstate

/-- The channel in slot `i` has been closed. -/
structure ClosedAt (i : Nat) (c : ChannelId) (s : Transport) : Prop where
  sid : (s.view.channels c).sid = some i
  closed : (s.dataChannels c).state = .closed
  alone : ∀ c', s.channels i = some c' → c' = c

/-- A registered channel is closed, on its own or together with all the others. -/
theorem dataChannelSetState_closed_settles
    (hs : Vacated fs (fun j => a.ClosesAll ∧ j < i) a.ClosesAll s.view)
    (hslot : s.channels i = some c) (hreg : (ongoing fs).registering c → a.ClosesAll) :
    ((dataChannelSetState c .closed).run s).Safe (vacating answers) a fs s₀ fun _ s' =>
      Vacated fs (fun j => a.ClosesAll ∧ j < i) a.ClosesAll s'.view ∧ Stable s s' ∧
        ClosedAt i c s' := by
  simp only [dataChannelSetState, Routine.run_bind, Routine.run_modify, run_logEvent,
    Routine.run_get, Prog.bind, Routine.run_ite]
  have hstable := Stable.setChannelState s c .closed
  have hview := s.view_setState c .closed
  generalize (s.modifyChannel c _).log _ = s₁ at hstable hview ⊢
  have hs₁ : Vacated fs (fun j => a.ClosesAll ∧ j < i) a.ClosesAll s₁.view := by
    rw [hview]
    exact hs.setChannelState (fun hne => absurd rfl hne) fun _ => hreg
  have hslot₁ : s₁.view.slots i = some c := by
    rw [hview]
    exact hslot
  have hclosed₁ : (s₁.view.channels c).state = .closed := by
    rw [hview, View.state_setChannelState, if_pos rfl]
  have hsid₁ : (s₁.view.channels c).sid = some i := hs₁.sid_of_slot hslot₁
  split
  · -- the application may do as it likes before the slot is emptied
    rw [run_callHandler]
    have hs₂ : Vacated fs (fun j => a.ClosesAll ∧ j < i) a.ClosesAll
        (s₁.log (.handler (.closeHandler c))).view := hs₁.calm (Calm.log s₁ _)
    refine ⟨⟨fun _ => hs₂.push ?_ ?_ ?_ ?_ ?_, trivial⟩, ?_⟩
    · exact fun j hj => (empties_closeHandler_iff hsid₁).mpr hj
    · exact fun j hj => hs₂.empty (.inl ((empties_closeHandler_iff hsid₁).mp hj))
    · intro ha
      exact ⟨ha, .inr ⟨c, rfl⟩⟩
    · intro c' heq
      cases heq
      exact ⟨i, hslot₁, hclosed₁⟩
    · intro c' heq
      cases heq
    · intro _ s' hs' hstable' _
      -- when the handler returns things are settled again
      have hsettled := hs' fun f hf => by cases hf; rfl
      have hstable'' : Stable (s₁.log (.handler (.closeHandler c))) s' := hstable'
      have hsid' : (s'.view.channels c).sid = some i := hstable''.sid hsid₁
      have hpopped := hsettled.pop
      refine ⟨?_, ?_, ?_⟩
      · apply hpopped.weaken
        · exact fun j hj => (empties_closeHandler_iff hsid').mp hj
        · exact fun j hj => hpopped.empty (.inl ((empties_closeHandler_iff hsid').mpr hj))
        · exact And.left
      · exact trans_of Stable hstable ((hs₁.stable (Calm.log s₁ _)).trans hstable'')
      · -- the channel is still in its slot, or the slot is empty
        obtain ⟨k, hsid, hclosed, hslot'⟩ := hsettled.closing (closing_cons.mpr (.inl rfl))
        obtain rfl : i = k := Option.some.inj (hsid'.symm.trans hsid)
        refine ⟨hsid, hclosed, ?_⟩
        intro c' hc'
        rcases hslot' with hslot' | hempty
        · exact Option.some.inj (hc'.symm.trans hslot')
        · have hnone : s'.channels i = none := hsettled.empty hempty
          rw [hc'] at hnone
          cases hnone
  · -- without a close handler nobody has interfered
    refine ⟨hs₁, hstable, hsid₁, hclosed₁, ?_⟩
    intro c' hc'
    exact Option.some.inj (hc'.symm.trans hslot₁)

/-! ## Section 4: Closing the transport -/

theorem closeDataChannelsFrom_vacates (ha : a.ClosesAll) (i left : Nat)
    (hs : Vacated fs (· < i) True s.view) :
    ((closeDataChannelsFrom i left).run s).Safe (vacating answers) a fs s₀
      fun _ s' => Vacated fs (· < i + left) True s'.view ∧ Stable s s' := by
  induction left generalizing i s with
  | zero => exact ⟨hs, refl_of Stable s⟩
  | succ left ih =>
    have hle : i + (left + 1) = i + 1 + left := by omega
    rw [hle]
    simp only [closeDataChannelsFrom, Routine.run_bind, Routine.run_get, Prog.bind]
    -- slots behind this one are left to the induction
    cases hslot : s.channels i with
    -- nothing is there, and nobody may put anything there any more
    | none =>
      apply ih (i + 1)
      apply hs.weaken (fun j hj => Nat.lt_succ_of_lt hj) _ id
      intro j hj
      rcases Nat.lt_succ_iff_lt_or_eq.mp hj with hj | rfl
      · exact hs.empty (.inl hj)
      · exact hslot
    | some c =>
      simp only [Routine.run_bind, Prog.safe_bind]
      have hs₀ : Vacated fs (fun j => a.ClosesAll ∧ j < i) a.ClosesAll s.view :=
        hs.weaken (fun j hj => ⟨ha, hj⟩) (fun j hj => hs.empty (.inl hj.2)) fun _ => ha
      apply (dataChannelSetState_closed_settles hs₀ hslot fun _ => ha).mono
      intro _ s₁ h₁
      obtain ⟨hs₁, hstable₁, hclosed⟩ := h₁
      simp only [run_clearSlot, Prog.safe_ret]
      -- handlers have run, but at most this channel is still in the slot
      have hs₂ : Vacated fs (· < i + 1) True (s₁.view.release i c) := by
        have hv : Vacated fs (· < i) True s₁.view :=
          hs₁.weaken (fun j hj => hj.2) (fun j hj => hs₁.empty (.inl ⟨ha, hj⟩)) fun _ => trivial
        apply hv.release hclosed.alone hclosed.closed
        · exact fun j hj => Nat.lt_succ_of_lt hj
        · exact fun j hj => Nat.lt_succ_iff_lt_or_eq.mp hj
        · exact fun _ => Nat.lt_succ_self i
      have hstable₂ : Stable s₁ ((s₁.setSlot i none).log (.slotDeref c)) :=
        ⟨fun _ _ => id, rfl⟩
      apply (ih (s := (s₁.setSlot i none).log (.slotDeref c)) (i + 1) hs₂).mono
      intro _ s' h
      exact ⟨h.1, trans_of Stable hstable₁ (trans_of Stable hstable₂ h.2)⟩

/-- After the loop all slots are empty. -/
theorem closeDataChannels_vacates (ha : a.ClosesAll) (hs : Settled fs s.view) :
    (closeDataChannels.run s).Safe (vacating answers) a fs s₀
      fun _ s' => Vacated fs (fun _ => True) True s'.view ∧ Stable s s' := by
  have hs₀ : Vacated fs (· < 0) True s.view :=
    hs.weaken (fun _ => False.elim) (fun j hj => absurd hj (Nat.not_lt_zero j)) fun _ => trivial
  apply (closeDataChannelsFrom_vacates ha 0 s.nChannels hs₀).mono
  intro _ s' h
  obtain ⟨hs', hstable⟩ := h
  refine ⟨hs'.weaken (fun _ _ => trivial) ?_ id, hstable⟩
  intro j _
  by_contra hsome
  obtain ⟨c, hc⟩ := Option.ne_none_iff_exists'.mp hsome
  have hlt : j < s'.view.nSlots := hs'.slot_lt hc
  rw [hstable.nSlots] at hlt
  have hbound : j < 0 + s.nChannels := Nat.zero_add _ ▸ hlt
  exact hsome (hs'.empty (.inl hbound))

theorem detachTransport_vacates (ha : a.ClosesAll)
    (hs : Vacated fs (fun _ => True) True s.view) :
    (detachTransport.run s).Safe (vacating answers) a fs s₀
      fun _ s' => Vacated fs (fun _ => True) True s'.view ∧ Stable s s' := by
  simp only [detachTransport, Routine.run_bind, Routine.run_modify, Routine.run_get, Prog.bind,
    Routine.run_ite, run_callHandler]
  have hcalm : Calm s s.detach := ⟨rfl, rfl, Iff.rfl, le_refl _, fun _ => .inl ⟨rfl, rfl⟩⟩
  split
  · have hcalm' : Calm s (s.detach.log (.handler .detachHandler)) :=
      trans_of Calm hcalm (Calm.log _ _)
    have hs₁ := hs.calm hcalm'
    -- while the handler runs, all slots count as emptied
    refine ⟨⟨fun _ => hs₁.push ?_ ?_ ?_ ?_ ?_, trivial⟩, ?_⟩
    · exact fun _ _ => .inl rfl
    · exact fun j _ => hs₁.empty (.inl trivial)
    · exact fun _ => ⟨ha, .inl rfl⟩
    · intro c heq
      cases heq
    · intro c heq
      cases heq
    · intro _ s' hs' hstable _
      have hstable' : Stable (s.detach.log (.handler .detachHandler)) s' := hstable
      have hpopped := (hs' fun f hf => by cases hf; rfl).pop
      refine ⟨?_, (hs.stable hcalm').trans hstable'⟩
      exact hpopped.weaken (fun _ _ => trivial) (fun j _ => hpopped.empty (.inl (.inl rfl)))
        fun _ => trivial
  · exact ⟨hs.calm hcalm, hs.stable hcalm⟩

theorem closeSocket_within : closeSocket.Within Op.IsSystem Calm := by
  apply Routine.within_get.bind
  intro t
  apply Routine.Within.ite _ (Routine.within_pure _)
  apply (Routine.within_modify fun s => Calm.log s _).bind
  intro _
  apply Routine.within_modify
  intro s
  exact ⟨rfl, rfl, Iff.rfl, le_refl _, fun _ => .inl ⟨rfl, rfl⟩⟩

theorem closeTraceFile_within : closeTraceFile.Within Op.IsSystem Calm := by
  apply Routine.within_get.bind
  intro t
  exact Routine.Within.ite (Routine.within_modify fun s => Calm.log s _) (Routine.within_pure _)

theorem closeTransport_vacates (ha : a.ClosesAll) (hs : Settled fs s.view) :
    (closeTransport.run s).Safe (vacating answers) a fs s₀
      fun _ s' => Vacated fs (fun _ => True) True s'.view ∧ Stable s s' := by
  simp only [closeTransport, Routine.run_bind, Prog.safe_bind]
  apply (closeDataChannels_vacates ha hs).mono
  intro _ s₁ h₁
  apply (detachTransport_vacates ha h₁.1).mono
  intro _ s₂ h₂
  have hend : (do closeSocket; closeTraceFile : M Unit).Within Op.IsSystem Calm :=
    closeSocket_within.bind fun _ => closeTraceFile_within
  have hsafe := (hend s₂).safe (vacating_trusts answers) a fs s₀ (hend s₂).always
  simp only [Routine.run_bind, Prog.safe_bind] at hsafe
  apply hsafe.mono
  intro _ s₃ h₃
  apply h₃.mono
  intro _ s' h
  exact ⟨h₂.1.calm h.1, trans_of Stable h₁.2 (trans_of Stable h₂.2 (h₂.1.stable h.1))⟩

/-! ## Section 5: The states of the transport -/

theorem setDataChannelStatesFrom_settles (i left : Nat) :
    Settles answers a fs (setDataChannelStatesFrom .opened (some .connecting) i left) := by
  induction left generalizing i with
  | zero => exact Routine.guarded_pure _
  | succ left ih =>
    intro s₀ s hs
    simp only [setDataChannelStatesFrom, Routine.run_bind, Routine.run_get, Prog.bind]
    cases s.channels i with
    | none => exact ih (i + 1) s₀ s hs
    | some c =>
      simp only [Option.all_some, decide_eq_true_eq, Routine.run_bind, Routine.run_ite]
      split
      · next hwaiting =>
        have hopen : (s.dataChannels c).state ≠ .closed := by
          rw [hwaiting]
          decide
        rw [Prog.safe_bind]
        apply (dataChannelSetState_settles hs hopen (by decide)).mono
        intro _ s₁ h₁
        apply (ih (i + 1) s₀ s₁ h₁.1).mono
        intro _ s' h
        exact ⟨h.1, trans_of Stable h₁.2 h.2⟩
      · exact ih (i + 1) s₀ s hs

section SetState

variable [MessageBuffer]

omit [MessageBuffer] in
/-- The end of `set_state`. -/
theorem reportTransportState_settles (state : TransportState) : Settles answers a fs (do
    let t ← get
    if t.stateChangeHandler then
      callHandler (.stateChangeHandler state) : M Unit) := by
  apply Routine.guarded_get.bind
  intro t
  apply Routine.Guarded.ite _ (Routine.guarded_pure _)
  exact callHandler_settles (h := .stateChangeHandler state) trivial

theorem setState_closed_settles (ha : a.ClosesAll) : Settles answers a fs (setState .closed) := by
  intro s₀ s hs
  simp only [setState, if_true, Routine.run_bind, Prog.safe_bind]
  apply (closeTransport_vacates ha hs).mono
  intro _ s₁ h₁
  have hne : TransportState.closed ≠ .connected := by decide
  simp only [Routine.run_modify, Prog.safe_ret, run_logEvent, if_neg hne]
  have hempty : ∀ i, s₁.view.slots i = none := fun i => h₁.1.empty (.inl trivial)
  have hs₂ : Settled fs ((s₁.setState .closed).log (.transportState .closed)).view :=
    h₁.1.enter_closed hempty
  have hstable : Stable s₁ ((s₁.setState .closed).log (.transportState .closed)) :=
    ⟨fun _ _ => id, rfl⟩
  apply (reportTransportState_settles (a := a) .closed s₀ _ hs₂).mono
  intro _ s' h
  exact ⟨h.1, trans_of Stable h₁.2 (trans_of Stable hstable h.2)⟩

/-- A transport that is not closed goes on to another state. -/
theorem setState_settles (hs : Settled fs s.view) (hopen : s.state ≠ .closed)
    {state : TransportState} (hstate : state ≠ .closed) :
    ((setState state).run s).Safe (vacating answers) a fs s₀
      fun _ s' => Settled fs s'.view ∧ Stable s s' := by
  let t : Transport := (s.setState state).log (.transportState state)
  have hcalm : Calm s t :=
    ⟨rfl, rfl, iff_of_false hstate hopen, le_refl _, fun _ => .inl ⟨rfl, rfl⟩⟩
  have hsend : sctpSendDeferredMessages.Within Op.IsSystem Calm :=
    within_of_sendsOnly sctpSendDeferredMessages_within
  -- the channels that wait are opened, and their handlers may use the library
  have hwaiting : Settles answers a fs (setDataChannelStates .opened (some .connecting)) := by
    apply Routine.guarded_get.bind
    intro t
    exact setDataChannelStatesFrom_settles 0 t.nChannels
  have hrest : Settles answers a fs (do
      if state = .connected then
        let _ ← sctpSendDeferredMessages
        setDataChannelStates .opened (some .connecting)
      let t ← get
      if t.stateChangeHandler then
        callHandler (.stateChangeHandler state) : M Unit) := by
    apply Routine.Guarded.ite
    · apply (settles_of_within hsend).bind
      intro _
      exact hwaiting.bind fun _ => reportTransportState_settles state
    · exact reportTransportState_settles state
  simp only [setState, if_neg hstate]
  apply (hrest s₀ t (hs.calm hcalm)).mono
  intro _ s' h
  exact ⟨h.1, trans_of Stable (hs.stable hcalm) h.2⟩

end SetState

/-! ## Section 6: Closing a channel -/

/-- The bound of a routine that does not close the transport. -/
theorem Settled.apart {v : View} (ha : ¬ a.ClosesAll) (hs : Settled fs v) :
    Vacated fs (fun j => a.ClosesAll ∧ j < i) a.ClosesAll v :=
  hs.weaken (fun _ => False.elim) (fun _ hj => absurd hj.1 ha) False.elim

theorem Vacated.settled {v : View} (ha : ¬ a.ClosesAll)
    (hs : Vacated fs (fun j => a.ClosesAll ∧ j < i) a.ClosesAll v) : Settled fs v :=
  hs.weaken (fun _ hj => ha hj.1) (fun _ => False.elim) ha

/-- A closed channel is removed from the slot its context names. -/
theorem clearSlot_settles (hs : Settled fs s.view) (hclosed : ClosedAt i c s)
    (halone : ¬ (ongoing fs).closing c) :
    Settled fs ((s.setSlot (s.context c).sid none).log (.slotDeref c)).view := by
  obtain ⟨-, -, hcontext⟩ := s.context_of_sid hclosed.sid
  rw [hcontext]
  exact hs.release hclosed.alone hclosed.closed (fun _ => id) (fun _ => .inl)
    fun h => absurd h halone

theorem Stable.setSlot (s : Transport) (i : Nat) (entry : Option ChannelId) (e : Event) :
    Stable s ((s.setSlot i entry).log e) :=
  ⟨fun _ _ => id, rfl⟩

/-- `reset_outgoing_stream` of a registered channel that nobody else is closing. -/
theorem resetOutgoingStream_settles (ha : ¬ a.ClosesAll) (hs : Settled fs s.view)
    (hslot : s.channels i = some c) (hreg : ¬ (ongoing fs).registering c)
    (halone : ¬ (ongoing fs).closing c) :
    ((resetOutgoingStream c).run s).Safe (vacating answers) a fs s₀
      fun r s' => Settled fs s'.view ∧ Stable s s' ∧ (r = .success → Calm s s') := by
  simp only [resetOutgoingStream, Routine.run_bind, Routine.run_get, Prog.bind, Routine.run_ite]
  split
  · -- the request has to wait, and nobody but the channel is concerned
    have hcalm : Calm s (s.modifyContext c (Context.setPendingStreamReset true)) :=
      Calm.modifyContext s c _ fun _ => rfl
    exact ⟨hs.calm hcalm, hs.stable hcalm, fun _ => hcalm⟩
  · have hrequests : (requestStreamReset c).Within Op.IsSystem Calm :=
      requestStreamReset_within (fun s _ _ => Calm.log s _) fun s => Calm.log s _
    have hrequest := hrequests s
    simp only [Prog.safe_bind]
    apply (hrequest.safe (vacating_trusts answers) a fs s₀ hrequest.always).mono
    intro error s₁ h₁
    have hcalm₁ : Calm s s₁ := h₁.1
    have hs₁ : Settled fs s₁.view := hs.calm hcalm₁
    have hslot₁ : s₁.channels i = some c := (congrFun hcalm₁.slots i).trans hslot
    split
    · exact ⟨hs₁, hs.stable hcalm₁, fun _ => hcalm₁⟩
    · -- the channel is closed on its own, and its slot is emptied
      next hfailed =>
      simp only [Prog.safe_bind]
      apply (dataChannelSetState_closed_settles (hs₁.apart ha) hslot₁ fun h => absurd h hreg).mono
      intro _ s₂ h₂
      obtain ⟨hv₂, hstable₂, hclosed₂⟩ := h₂
      have hs₂ : Settled fs s₂.view := hv₂.settled ha
      have hstable : Stable s s₂ := trans_of Stable (hs.stable hcalm₁) hstable₂
      simp only [channelRegistered, Routine.run_bind, Routine.run_get, Prog.bind, Routine.run_ite]
      split
      · simp only [Routine.run_pure, Prog.safe_ret, if_true, run_clearSlot, Prog.bind]
        refine ⟨clearSlot_settles hs₂ hclosed₂ halone, ?_, fun h => absurd h hfailed⟩
        exact trans_of Stable hstable (Stable.setSlot _ _ _ _)
      · have hlogged : Calm s₂ (s₂.log (.invalidSlot c)) := Calm.log _ _
        exact ⟨hs₂.calm hlogged, trans_of Stable hstable (hs₂.stable hlogged), by simp⟩

/-- `channel_close_handler`. -/
theorem channelCloseHandler_settles (ha : ¬ a.ClosesAll) (hs : Settled fs s.view)
    (hopen : (s.dataChannels c).state ≠ .closed) (hreg : ¬ (ongoing fs).registering c) :
    ((channelCloseHandler c).run s).Safe (vacating answers) a fs s₀
      fun _ s' => Settled fs s'.view ∧ Stable s s' := by
  simp only [channelCloseHandler, Routine.run_bind, Routine.run_get, Prog.bind]
  cases (s.dataChannels c).transportArg with
  | none => exact ⟨hs, refl_of Stable s⟩
  | some context =>
    have halone : ¬ (ongoing fs).closing c := by
      intro hclosing
      obtain ⟨_, -, hclosed, -⟩ := hs.closing hclosing
      exact hopen hclosed
    simp only [channelRegistered, Routine.run_bind, Routine.run_get, Prog.bind, Routine.run_ite,
      Prog.safe_bind]
    split
    · next hslot =>
      simp only [Routine.run_pure, Prog.safe_ret, if_true, Prog.safe_bind]
      apply (resetOutgoingStream_settles ha hs hslot hreg halone).mono
      intro error s₁ h₁
      obtain ⟨hs₁, hstable₁, hcalm₁⟩ := h₁
      split
      · next hsuccess =>
        -- the channel is in the state it was in before
        have hsid : (s.view.channels c).sid = some (s.context c).sid := hs.sid_of_slot hslot
        have hsame := ((hcalm₁ hsuccess).channel hsid hs.unregistered_of_next_le).2
        have hopen₁ : (s₁.dataChannels c).state ≠ .closed := fun h => hopen (hsame.symm.trans h)
        simp only [Prog.safe_bind]
        apply (dataChannelSetState_settles hs₁ hopen₁ (by decide)).mono
        intro _ s' h
        exact ⟨h.1, trans_of Stable hstable₁ h.2⟩
      · exact ⟨hs₁, hstable₁⟩
    · have hlogged : Calm s (s.log (.invalidSlot c)) := Calm.log _ _
      exact ⟨hs.calm hlogged, hs.stable hlogged⟩

/-- `rawrtc_data_channel_close` of a channel that is not being announced. -/
theorem dataChannelClose_settles (ha : ¬ a.ClosesAll) (hreg : ¬ (ongoing fs).registering c) :
    Settles answers a fs (dataChannelClose c) := by
  intro s₀ s hs
  simp only [dataChannelClose, Routine.run_bind, Routine.run_get, Prog.bind, Routine.run_ite]
  split
  · exact ⟨hs, refl_of Stable s⟩
  · split
    · exact ⟨hs, refl_of Stable s⟩
    · next hstate =>
      apply channelCloseHandler_settles ha hs _ hreg
      exact fun h => hstate (.inr h)

theorem modifyChannel_settles (c : ChannelId) {f : DataChannel → DataChannel}
    (hf : ∀ ch, (f ch).view.state = ch.view.state ∧ (f ch).view.sid = ch.view.sid) :
    Settles answers a fs (modify (·.modifyChannel c f) : M Unit) :=
  settles_modify fun s => Calm.modifyChannel s c f (hf _)

theorem dataChannelSetHandler_settles (c : ChannelId)
    (f : DataChannelHandlers → DataChannelHandlers) :
    Settles answers a fs (dataChannelSetHandler c f) := by
  have hmodify : Settles answers a fs
      (modify (·.modifyChannel c fun ch => { ch with handlers := f ch.handlers }) : M Unit) :=
    modifyChannel_settles c fun _ => ⟨rfl, rfl⟩
  exact hmodify.bind fun _ => Routine.guarded_pure _

theorem dataChannelDestroy_settles (ha : ¬ a.ClosesAll) (hreg : ¬ (ongoing fs).registering c) :
    Settles answers a fs (dataChannelDestroy c) := by
  apply (dataChannelSetHandler_settles c fun _ => {}).bind
  intro _
  apply (dataChannelClose_settles ha hreg).bind
  intro _
  exact Routine.guarded_pure _

end RawrtcDataChannel
