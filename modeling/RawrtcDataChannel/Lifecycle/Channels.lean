import RawrtcDataChannel.Lifecycle.Sending

/-!
# The life of data channels

Every routine that opens, closes, registers or creates a data channel keeps the contract. The
routines are the ones of `State` and `Channel`; the lemmas are in the order of the calls.
-/

namespace RawrtcDataChannel

open Reentrant

variable {L : Limits} {a : Call} {fs : List (Call × Op)} {s₀ s : Transport} {c : ChannelId}

/-! ## Section 1: Setting the state of a channel -/

/-- The transport itself has not changed. -/
structure Stays (v v' : View) : Prop where
  state : v'.state = v.state
  detached : v'.detached = v.detached
  socket : v'.socket = v.socket

theorem Stays.refl (v : View) : Stays v v := ⟨rfl, rfl, rfl⟩

theorem Stays.trans {v v' v'' : View} (h : Stays v v') (h' : Stays v' v'') : Stays v v'' :=
  ⟨h'.state.trans h.state, h'.detached.trans h.detached, h'.socket.trans h.socket⟩

theorem Rely.stays {g : Ongoing} {v v' : View} (h : Rely g v v') (hg : g.frozen) : Stays v v' :=
  have hf := h.frozen hg
  ⟨hf.1, hf.2.1, hf.2.2⟩

/-- Opening a channel that is registered. The registration is complete then. -/
theorem dataChannelSetState_opened_safe {Q : Unit → Transport → Prop} {i : Nat}
    (hinv : Inv L ((here a fs).withRegistering c) s.view)
    (hmono : ∀ c, (s₀.dataChannels c).state ≤ (s.dataChannels c).state)
    (hslot : s.channels i = some c) (hc : (s.dataChannels c).state = .connecting)
    (hstate : .connected ≤ s.state)
    (hQ : ∀ s', At L a fs s₀ s' → RelyBut c (ongoing fs) s.view s'.view →
      (a.Opens → Stays s.view s'.view) → (s'.dataChannels c).state ≠ .connecting → Q () s') :
    ((dataChannelSetState c .opened).run s).Safe (contract L) a fs s₀ Q := by
  simp only [dataChannelSetState, Routine.run_bind, Routine.run_modify, run_logEvent,
    Routine.run_get, Prog.bind, Routine.run_ite]
  generalize hs₁ : Transport.log _ _ = s₁
  have hlt : (s.view.channels c).state < .opened := by
    change (s.dataChannels c).state < .opened
    rw [hc]
    decide
  have hview : s₁.view = s.view.setChannelState c .opened := hs₁ ▸ s.view_setState c .opened
  have hbut : RelyBut c (ongoing fs) s.view s₁.view := hview ▸ RelyBut.setChannelState hlt
  have hopened : (s₁.view.channels c).state = .opened := by simp [hview]
  have hat : At L a fs s₀ s₁ := by
    have hinv₁ := hinv.setChannelState (s := .opened) hlt hslot (fun _ => hstate) (by simp)
      (by simp)
    refine ⟨hview ▸ hinv₁.registered (by simp), fun c' => (hmono c').trans (hbut.states c')⟩
  have hstays : Stays s.view s₁.view := by rw [hview]; exact ⟨rfl, rfl, rfl⟩
  -- a channel that has been opened does not go back
  have hne : ∀ s' : Transport, Forward s₁.view s'.view → (s'.dataChannels c).state ≠ .connecting := by
    intro s' hf heq
    have := hf.states c
    rw [hopened] at this
    change DataChannelState.opened ≤ (s'.dataChannels c).state at this
    rw [heq] at this
    exact absurd this (by decide)
  split
  · simp only [run_callHandler]
    have hat' : At L a fs s₀ (s₁.log (.handler (.openHandler c))) :=
      ⟨hat.inv.log_openHandler hopened.le (hat.inv.slots.lt_next (i := i) (by rw [hview]; exact hslot)),
        hat.mono⟩
    have hrely : Rely (ongoing fs) s₁.view (s₁.log (.handler (.openHandler c))).view :=
      Rely.log (by exact id) (by simp)
    refine safe_ordinary (.openHandler c) trivial hat' fun s' hat'' hrely' => ?_
    refine hQ s' hat'' ((hbut.trans (hrely.but c)).trans (hrely'.of_cons.but c)) ?_ ?_
    · intro hopens
      have hfrozen := hrely'.stays ⟨_, List.mem_cons_self, .inr (.inr ⟨hopens, c, rfl⟩)⟩
      exact hstays.trans ⟨hfrozen.state, hfrozen.detached, hfrozen.socket⟩
    · exact hne s' (hrely.toForward.trans hrely'.toForward)
  · exact hQ s₁ hat hbut (fun _ => hstays) (hne s₁ (Forward.refl _))

/-- Beginning to close a channel. -/
theorem At.closing (h : At L a fs s₀ s) {i : Nat} (hslot : s.channels i = some c)
    (hlt : (s.dataChannels c).state < .closing)
    (hreset : (s.view.channels c).pendingReset = true ∨ s.view.ResetDone c) {s' : Transport}
    (hs' : s' = (s.modifyChannel c ({ · with state := .closing })).log (.channelState c .closing)) :
    At L a fs s₀ s' ∧ s'.view = s.view.setChannelState c .closing := by
  have hview : s'.view = s.view.setChannelState c .closing := hs' ▸ s.view_setState c .closing
  refine ⟨h.next ?_ ?_, hview⟩
  · rw [hview]
    exact h.inv.setChannelState (s := .closing) hlt hslot (by simp) (fun _ => hreset) (by simp)
  · rw [hview]
    exact (RelyBut.setChannelState (g := ongoing fs) hlt).toForward

/-- Closing a channel. It has to be removed from its slot afterwards. -/
theorem dataChannelSetState_closed_safe {Q : Unit → Transport → Prop} {i : Nat}
    (h : At L a fs s₀ s) (hslot : s.channels i = some c)
    (hc : (s.dataChannels c).state ≠ .closed)
    (hQ : ∀ s', Inv L ((here a fs).withClosing c) s'.view →
      RelyBut c (ongoing fs) s.view s'.view → Stays s.view s'.view → s'.channels i = some c →
      (s'.dataChannels c).state = .closed → Q () s') :
    ((dataChannelSetState c .closed).run s).Safe (contract L) a fs s₀ Q := by
  simp only [dataChannelSetState, Routine.run_bind, Routine.run_modify, run_logEvent,
    Routine.run_get, Prog.bind, Routine.run_ite]
  generalize hs₁ : Transport.log _ _ = s₁
  have hlt : (s.view.channels c).state < .closed :=
    lt_of_le_of_ne (DataChannelState.le_closed _) hc
  have hview : s₁.view = s.view.setChannelState c .closed := hs₁ ▸ s.view_setState c .closed
  have hinv : Inv L ((here a fs).withClosing c) (s.view.setChannelState c .closed) :=
    (h.inv.mono (Ongoing.le_withClosing _ c)).setChannelState hlt hslot (by simp) (by simp)
      (fun _ => .inr rfl)
  have hbut : RelyBut c (ongoing fs) s.view s₁.view := hview ▸ RelyBut.setChannelState hlt
  have hclosed : (s₁.view.channels c).state = .closed := by simp [hview]
  have hslot₁ : s₁.view.slots i = some c := by rw [hview]; exact hslot
  have hstays : Stays s.view s₁.view := by rw [hview]; exact ⟨rfl, rfl, rfl⟩
  -- from here on the channel counts as closing, until it has left its slot
  split
  · simp only [run_callHandler]
    generalize hs₂ : s₁.log _ = s₂
    have hview₂ : s₂.view = s₁.view.log (.handler (.closeHandler c)) := by rw [← hs₂]; rfl
    have hrely : Rely (ongoing fs) s₁.view s₂.view := hview₂ ▸ Rely.log (by exact id) (by simp)
    refine safe_handler (g := (here a fs).withClosing c) ?_ ?_ ?_ ?_ ?_ ?_
    · rw [hview₂, hview]
      exact h.inv.closeHandler hc hinv
    · exact fun c' => (h.mono c').trans ((hbut.states c').trans (hrely.states c'))
    · refine ⟨?_, here_le_ongoing.registering, here_le_ongoing.opening,
        here_le_ongoing.detaching⟩
      rintro c' (hc' | rfl)
      · exact here_le_ongoing.closing c' hc'
      · exact ⟨a, List.mem_cons_self⟩
    · refine ongoing_le_of (Ongoing.le_withClosing _ c) ?_ ?_ ?_
      · rintro c' heq; cases heq; exact .inr rfl
      · rintro c' heq; cases heq
      · rintro heq; cases heq
    · rintro c' heq
      cases heq
      refine ⟨fun heq => hc (le_antisymm (DataChannelState.le_closed _) (heq ▸ h.mono c)), ?_⟩
      change (s₂.view.channels c).state = .closed
      rw [hview₂]
      exact hclosed
    · -- the handler may have done anything but open the channel or take its slot
      intro s' hinv' hrely'
      have hclosed₂ : (s₂.view.channels c).state = .closed := by rw [hview₂]; exact hclosed
      have hslot₂ : s₂.view.slots i = some c := by rw [hview₂]; exact hslot₁
      refine hQ s' hinv' ((hbut.trans (hrely.but c)).trans (hrely'.of_cons.but c)) ?_ ?_ ?_
      · refine hstays.trans (Stays.trans ?_
          (hrely'.stays ⟨_, List.mem_cons_self, .inl ⟨c, rfl⟩⟩))
        rw [hview₂]
        exact ⟨rfl, rfl, rfl⟩
      · exact (hrely'.slots hslot₂).resolve_right fun hne => hne.1 hclosed₂
      · exact le_antisymm (DataChannelState.le_closed _) (hclosed₂ ▸ hrely'.states c)
  · exact hQ s₁ (hview ▸ hinv) hbut hstays hslot₁ hclosed

/-! ## Section 2: Closing -/

theorem channelRegistered_safe {Q : Bool → Transport → Prop} {i : Nat}
    (hsid : (s.view.channels c).sid = some i) (hslot : s.channels i = some c) (hQ : Q true s) :
    ((channelRegistered c).run s).Safe (contract L) a fs s₀ Q := by
  obtain ⟨-, -, hcontext⟩ := s.context_of_sid hsid
  simp only [channelRegistered, Routine.run_bind, Routine.run_get, Prog.bind, hcontext, hslot]
  exact hQ

theorem requestStreamReset_safe {Q : Code → Transport → Prop} (h : At L a fs s₀ s)
    (hidle : s.bufferedMessagesOutgoing = []) {i : Nat} (hregistered : (s.view.channels c).sid = some i)
    (hQ : ∀ r s', At L a fs s₀ s' → s'.bufferedMessagesOutgoing = [] →
      (∃ sid error, s'.view = s.view.log (.resetStreams c sid error) ∧
        (r = .success → error = none)) ∨
      s'.view = s.view.log (.resetNoMemory c) ∧ r ≠ .success → Q r s') :
    ((requestStreamReset c).run s).Safe (contract L) a fs s₀ Q := by
  simp only [requestStreamReset, Routine.run_bind, Prog.safe_bind]
  refine alloc_safe h fun ok => ?_
  cases ok with
  | false =>
    have hquiet : Quiet s.view (s.log (.resetNoMemory c)).view := Quiet.log s.view trivial
    exact hQ _ _ (h.quiet hquiet) hidle (.inr ⟨rfl, Code.noConfusion⟩)
  | true =>
    simp only [if_true, Routine.run_bind, Routine.run_get, Prog.bind,
      run_usrsctpResetStreams]
    refine safe_system rfl h hidle fun error => ?_
    obtain ⟨-, -, hcontext⟩ := s.context_of_sid hregistered
    have hat : At L a fs s₀ (s.log (.resetStreams c (s.context c).sid error)) :=
      h.next (h.inv.log_resetStreams (hcontext ▸ hregistered))
        (Rely.log (g := ongoing fs) (by exact id) (by simp)).toForward
    cases error with
    | none => exact hQ _ _ hat hidle (.inl ⟨_, _, rfl, fun _ => rfl⟩)
    | some error => exact hQ _ _ hat hidle (.inl ⟨_, _, rfl, fun heq => absurd heq error.2⟩)

/-- What `reset_outgoing_stream` leaves behind. -/
structure ResetOutcome (g : Ongoing) (c : ChannelId) (i : Nat) (s : Transport) (r : Code)
    (s' : Transport) : Prop where
  rely : Rely g s.view s'.view
  success : r = .success → s'.channels i = some c ∧
    (s'.dataChannels c).state = (s.dataChannels c).state ∧ Stays s.view s'.view ∧
    ((s'.view.channels c).pendingReset = true ∨ s'.view.ResetDone c) ∧
    (s.bufferedMessagesOutgoing = [] → s'.view.ResetDone c)
  failure : r ≠ .success → (s'.dataChannels c).state = .closed ∧ ∀ j, s'.channels j ≠ some c

theorem resetOutgoingStream_safe {Q : Code → Transport → Prop} {i : Nat} (h : At L a fs s₀ s)
    (hslot : s.channels i = some c) (hc : (s.dataChannels c).state ≠ .closed)
    (hreg : ¬ (ongoing fs).registering c)
    (hQ : ∀ r s', At L a fs s₀ s' → ResetOutcome (ongoing fs) c i s r s' → Q r s') :
    ((resetOutgoingStream c).run s).Safe (contract L) a fs s₀ Q := by
  have hsid : (s.view.channels c).sid = some i := h.inv.slots.sid_of_slot hslot
  simp only [resetOutgoingStream, Routine.run_bind, Routine.run_get, Prog.bind, Routine.run_ite]
  split
  · next hqueue =>
    -- messages are waiting: the reset is postponed
    have hview := s.view_setPendingReset (c := c) true (by rw [hsid]; simp)
    simp only [Routine.run_modify, Prog.bind]
    refine hQ _ _ ?_ ⟨?_, fun _ => ⟨hslot, ?_, ?_, .inl ?_, fun hnil => absurd hnil hqueue⟩,
      fun hne => absurd rfl hne⟩
    · refine h.next ?_ ?_
      · rw [hview]; exact h.inv.setPendingReset (by simp)
      · rw [hview]; exact (Rely.setPendingReset (g := ongoing fs) c true).toForward
    · rw [hview]; exact Rely.setPendingReset c true
    · change ((Transport.view _).channels c).state = (s.view.channels c).state
      rw [hview]
      simp
    · rw [hview]; exact ⟨rfl, rfl, rfl⟩
    · rw [hview]; simp
  · next hqueue =>
    have hqueue : s.bufferedMessagesOutgoing = [] := by simpa using hqueue
    simp only [Prog.safe_bind]
    refine requestStreamReset_safe h hqueue hsid fun r s₁ hat hidle hr => ?_
    have hview : s₁.view.slots = s.view.slots ∧ s₁.view.channels = s.view.channels ∧
        Stays s.view s₁.view ∧ Rely (ongoing fs) s.view s₁.view := by
      rcases hr with ⟨sid, error, hview, -⟩ | ⟨hview, -⟩ <;> rw [hview]
      · exact ⟨rfl, rfl, ⟨rfl, rfl, rfl⟩, Rely.log (by exact id) (by simp)⟩
      · exact ⟨rfl, rfl, ⟨rfl, rfl, rfl⟩, Rely.log (by exact id) (by simp)⟩
    obtain ⟨hslots, hchannels, hstays, hrely⟩ := hview
    have hslot₁ : s₁.channels i = some c := by
      change s₁.view.slots i = some c
      rw [hslots]
      exact hslot
    have hstate₁ : (s₁.dataChannels c).state = (s.dataChannels c).state := by
      change (s₁.view.channels c).state = (s.view.channels c).state
      rw [hchannels]
    split
    · next hsuccess =>
      have hdone : s₁.view.ResetDone c := by
        rcases hr with ⟨sid, error, hview, herror⟩ | ⟨-, hne⟩
        · exact ⟨sid, by rw [hview, herror hsuccess]; simp⟩
        · exact absurd hsuccess hne
      refine hQ _ s₁ hat ⟨hrely, fun _ => ⟨hslot₁, hstate₁, hstays, .inr hdone, fun _ => hdone⟩, ?_⟩
      exact fun hne => absurd rfl hne
    · next hne =>
      -- improper closing
      simp only [Prog.safe_bind]
      refine dataChannelSetState_closed_safe hat hslot₁ (hstate₁ ▸ hc) ?_
      intro s₂ hinv₂ hbut₂ _ hslot₂ hclosed₂
      have hsid₂ : (s₂.view.channels c).sid = some i := hinv₂.slots.sid_of_slot hslot₂
      refine channelRegistered_safe hsid₂ hslot₂ ?_
      obtain ⟨-, -, hcontext⟩ := s₂.context_of_sid hsid₂
      simp only [if_true, Prog.bind,
        run_clearSlot, hcontext]
      have hrely₂ : Rely (ongoing fs) s₁.view s₂.view := by
        refine hbut₂.rely (fun hreg' => absurd hreg' hreg) fun _ heq => ?_
        rw [show (s₂.view.channels c).state = .closed from hclosed₂] at heq
        cases heq
      have hrely₃ : Rely (ongoing fs) s.view (s₂.view.release i c) :=
        (hrely.trans hrely₂).release hc hclosed₂ hslot₂
      have hinv₃ := hinv₂.release hslot₂ hclosed₂
      refine hQ _ _ (h.next hinv₃ hrely₃.toForward) ⟨hrely₃, fun heq => absurd heq hne, ?_⟩
      refine fun _ => ⟨hclosed₂, fun j hj => ?_⟩
      have hj' : (s₂.view.release i c).slots j = some c := hj
      have hderef : Event.slotDeref c ∈ (s₂.view.release i c).history := by simp
      exact (hinv₃.history.fits _ hderef).2.2 j hj'

theorem channelCloseHandler_safe {Q : Code → Transport → Prop} (h : At L a fs s₀ s)
    (hlt : (s.dataChannels c).state < .closing)
    (hreg : (s.view.channels c).sid ≠ none → ¬ (ongoing fs).registering c)
    (hQ : ∀ r s', At L a fs s₀ s' → Rely (ongoing fs) s.view s'.view →
      ((s.view.channels c).sid = none → s' = s) → Q r s') :
    ((channelCloseHandler c).run s).Safe (contract L) a fs s₀ Q := by
  simp only [channelCloseHandler, Routine.run_bind, Routine.run_get, Prog.bind]
  cases hx : (s.dataChannels c).transportArg with
  | none => exact hQ _ s h (.refl _ _) fun _ => rfl
  | some x =>
    have hsid : (s.view.channels c).sid = some x.sid := by
      simp [Transport.view, DataChannel.view, hx]
    have hreg := hreg (by rw [hsid]; simp)
    have hne : (s.dataChannels c).state ≠ .closed := by
      intro heq
      rw [heq] at hlt
      exact absurd hlt (by decide)
    have hslot : s.channels x.sid = some c := h.inv.slots.slot_of_sid hsid hne
    simp only [Routine.run_bind, Prog.safe_bind]
    refine channelRegistered_safe hsid hslot ?_
    simp only [Routine.run_ite, if_true, Routine.run_bind, Prog.safe_bind]
    refine resetOutgoingStream_safe h hslot hne hreg fun r s₁ hat hr => ?_
    have hnone : (s.view.channels c).sid = none → ∀ s' : Transport, s' = s := by
      rw [hsid]
      simp
    split
    · next hsuccess =>
      obtain ⟨hslot₁, hstate₁, -, hreset, -⟩ := hr.success hsuccess
      simp only [run_dataChannelSetState_closing, Prog.bind]
      have hlt₁ : (s₁.dataChannels c).state < .closing := by rw [hstate₁]; exact hlt
      obtain ⟨hat₂, hview₂⟩ := hat.closing hslot₁ hlt₁ hreset rfl
      refine hQ _ _ hat₂ (hr.rely.trans ?_) fun hn => hnone hn _
      rw [hview₂]
      exact Rely.setChannelState hlt₁ hreg
    · exact hQ _ s₁ hat hr.rely fun hn => hnone hn _

theorem dataChannelClose_safe {Q : Code → Transport → Prop} (h : At L a fs s₀ s)
    (hreg : (s.view.channels c).sid ≠ none → ¬ (ongoing fs).registering c)
    (hQ : ∀ r s', At L a fs s₀ s' → Rely (ongoing fs) s.view s'.view →
      ((s.view.channels c).sid = none → s' = s) → Q r s') :
    ((dataChannelClose c).run s).Safe (contract L) a fs s₀ Q := by
  simp only [dataChannelClose, Routine.run_bind, Routine.run_get, Prog.bind, Routine.run_ite]
  split
  · exact hQ _ s h (.refl _ _) fun _ => rfl
  · split
    · exact hQ _ s h (.refl _ _) fun _ => rfl
    · next hstate =>
      have hlt : (s.dataChannels c).state < .closing := by
        revert hstate
        cases (s.dataChannels c).state <;> decide
      exact channelCloseHandler_safe h hlt hreg hQ

/-! ## Section 3: Registering -/

/-- The end of a registration: the channel is opened if the transport is connected. -/
theorem openIfConnected_safe {Q : Unit → Transport → Prop} {i : Nat}
    (hinv : Inv L ((here a fs).withRegistering c) s.view)
    (hmono : ∀ c, (s₀.dataChannels c).state ≤ (s.dataChannels c).state)
    (hc : s.state = .connected → s.channels i = some c ∧ (s.dataChannels c).state = .connecting)
    (hQ : ∀ s', At L a fs s₀ s' → RelyBut c (ongoing fs) s.view s'.view →
      (s'.state = .connected → (s'.dataChannels c).state ≠ .connecting) → Q () s') :
    ((if s.state = .connected then (dataChannelSetState c .opened).run s
      else .ret () s : Prog Op Op.Reply Transport Unit)).Safe (contract L) a fs s₀ Q := by
  split
  · next hs =>
    obtain ⟨hslot, hconn⟩ := hc hs
    exact dataChannelSetState_opened_safe hinv hmono hslot hconn hs.ge
      fun s' hat hbut _ hne => hQ s' hat hbut fun _ => hne
  · next hs =>
    refine hQ s ⟨hinv.registered fun heq => absurd heq hs, hmono⟩ ((Rely.refl _ _).but c) ?_
    exact fun heq => absurd heq hs

theorem channelRegister_safe {Q : Unit → Transport → Prop} (h : At L a fs s₀ s)
    (context : Context) (raiseEvent : Bool) (hnext : c < s.nextChannel)
    (hnew : (s.view.channels c).sid = none) (hfree : s.channels context.sid = none)
    (hsid : context.sid < s.nChannels ∨ ¬ L.sidsBelow ∧ .connected ≤ s.state)
    (hQ : ∀ s', At L a fs s₀ s' → Rely (ongoing fs) s.view s'.view → Q () s') :
    ((channelRegister c context raiseEvent).run s).Safe (contract L) a fs s₀ Q := by
  simp only [channelRegister, takeSlot, Routine.run_bind, Routine.run_modify, run_logEvent,
    Routine.run_get, Prog.bind, Routine.run_ite, Routine.run_pure]
  generalize hs₁ : Transport.log _ _ = s₁
  have hview : s₁.view = s.view.register c context.sid context.flags.pendingStreamReset :=
    hs₁ ▸ s.view_register c context
  have hinv : Inv L ((here a fs).withRegistering c) s₁.view := by
    rw [hview]
    exact (h.inv.mono (Ongoing.le_withRegistering _ c)).register hnext hnew hfree hsid
      fun _ => .inr rfl
  have hbut : RelyBut c (ongoing fs) s.view s₁.view := hview ▸ RelyBut.register hnew hfree
  have hslot : s₁.view.slots context.sid = some c := by simp [hview]
  have hsid₁ : (s₁.view.channels c).sid = some context.sid := by simp [hview]
  have hconn : (s₁.view.channels c).state = .connecting := by
    rw [hview, View.state_register]
    exact h.inv.slots.connecting_of_unregistered hnew
  have hmono : ∀ c', (s₀.dataChannels c').state ≤ (s₁.dataChannels c').state :=
    fun c' => (h.mono c').trans (hbut.states c')
  -- nobody relied upon a channel that did not exist before
  have hdone : ∀ s' : Transport, At L a fs s₀ s' → RelyBut c (ongoing fs) s₁.view s'.view →
      (s'.state = .connected → (s'.dataChannels c).state ≠ .connecting) → Q () s' :=
    fun s' hat hbut' hne => hQ s' hat ((hbut.trans hbut').rely (fun _ => hnew) hne)
  split
  · simp only [run_callHandler, Prog.bind]
    generalize hs₂ : s₁.log _ = s₂
    have hview₂ : s₂.view = s₁.view.log (.handler (.dataChannelHandler c)) := by rw [← hs₂]; rfl
    have hquiet : Quiet s₁.view s₂.view :=
      hview₂ ▸ Quiet.log (e := .handler (.dataChannelHandler c)) s₁.view trivial
    refine safe_handler (g := (here a fs).withRegistering c) (hinv.quiet hquiet) ?_ ?_ ?_ ?_ ?_
    · exact fun c' => (hmono c').trans ((Rely.quiet (g := ongoing fs) hquiet).states c')
    · refine ⟨here_le_ongoing.closing, ?_, here_le_ongoing.opening, here_le_ongoing.detaching⟩
      rintro c' (hc' | rfl)
      · exact here_le_ongoing.registering c' hc'
      · exact ⟨a, List.mem_cons_self⟩
    · refine ongoing_le_of (Ongoing.le_withRegistering _ c) ?_ ?_ ?_
      · rintro c' heq; cases heq
      · rintro c' heq; cases heq; exact .inr rfl
      · rintro heq; cases heq
    · rintro c' heq; cases heq
    · intro s₃ hinv₃ hrely₃
      have hrely : Rely (ongoing fs) s₁.view s₃.view :=
        (Rely.quiet hquiet).trans hrely₃.of_cons
      refine openIfConnected_safe (i := context.sid) hinv₃
        (fun c' => (hmono c').trans (hrely.states c')) ?_
        fun s' hat hbut' hne => hdone s' hat ((hrely.but c).trans hbut') hne
      intro hs₃
      have hconn₃ : (s₃.view.channels c).state = .connecting := by
        refine (hrely₃.registering ⟨a, List.mem_cons_self⟩ ?_ ?_).resolve_right ?_
        · rw [hview₂, View.channels_log, hsid₁]; simp
        · rw [hview₂]; exact hconn
        · change s₃.state ≠ .closed; rw [hs₃]; simp
      refine ⟨(hrely.slots hslot).resolve_right ?_, hconn₃⟩
      rintro ⟨-, hclosed⟩
      rw [hconn₃] at hclosed
      cases hclosed
  · exact openIfConnected_safe (i := context.sid) hinv hmono (fun _ => ⟨hslot, hconn⟩) hdone

end RawrtcDataChannel
