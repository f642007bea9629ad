import RawrtcDataChannel.Lifecycle.Transitions

/-!
# Events and the life of channels

The routines of `Events` keep the contract. The event loop calls them when nothing else is in
progress.
-/

namespace RawrtcDataChannel

open Reentrant

variable {L : Limits} {a : Call} {fs : List (Call × Op)} {s₀ s : Transport} {c : ChannelId}

theorem Quiet.of_eq {v v' : View} (h : v' = v) : Quiet v v' := h ▸ .refl v

/-- With nothing suspended, nobody registers or closes a channel. -/
theorem not_registering_nil (c : ChannelId) : ¬ (ongoing []).registering c := by
  simp [ongoing]

theorem At.not_closed (h : At L a [] s₀ s) {i : Nat} (hslot : s.channels i = some c) :
    (s.dataChannels c).state ≠ .closed := by
  intro hc
  obtain ⟨b, hb⟩ := h.inv.slots.closed hslot hc
  cases hb

/-! ## Section 1: Messages -/

theorem passMessageToHandler_safe {Q : Unit → Transport → Prop} (h : At L a fs s₀ s)
    (buffer : Mbuf) (ppid : Nat) (isComplete : Bool)
    (hQ : ∀ s', At L a fs s₀ s' → Rely (ongoing fs) s.view s'.view → Q () s') :
    ((passMessageToHandler c buffer ppid isComplete).run s).Safe (contract L) a fs s₀ Q := by
  -- releasing the buffer changes nothing here
  have hend : ∀ s' : Transport, At L a fs s₀ s' → Rely (ongoing fs) s.view s'.view →
      Q () (s'.modifyContext c Context.releaseInbound) := by
    intro s' hat hrely
    have hq := Quiet.of_eq (s'.view_releaseInbound c)
    exact hQ _ (hat.quiet hq) (hrely.trans (Rely.quiet hq))
  simp only [passMessageToHandler, Routine.run_bind, Routine.run_get, Prog.bind]
  cases messageFlagsOfPpid ppid isComplete with
  | none => exact hend s h (.refl _ _)
  | some messageFlags =>
    simp only [Routine.run_ite]
    split
    · simp only [Routine.run_bind, run_callHandler, Prog.bind]
      have hq : Quiet s.view
          (s.log (.handler (.messageHandler c (some buffer.rest) messageFlags))).view :=
        Quiet.log _ trivial
      refine safe_ordinary (.messageHandler c (some buffer.rest) messageFlags) trivial
        (h.quiet hq) fun s' hat hrely => ?_
      exact hend s' hat ((Rely.quiet hq).trans hrely.of_cons)
    · exact hend s h (.refl _ _)

theorem handleApplicationMessage_safe {Q : Unit → Transport → Prop} (h : At L a fs s₀ s)
    (buffer : Mbuf) (info : RcvInfo) (eor : Bool)
    (hQ : ∀ s', At L a fs s₀ s' → Rely (ongoing fs) s.view s'.view → Q () s') :
    ((handleApplicationMessage buffer info eor).run s).Safe (contract L) a fs s₀ Q := by
  simp only [handleApplicationMessage, Routine.run_bind, Routine.run_get, Prog.bind]
  cases s.channels info.rcvSid with
  | none => exact hQ s h (.refl _ _)
  | some c =>
    -- whatever is stored in the context: the view stays the same
    have hdone : ∀ s' : Transport, s'.view = s.view → Q () s' :=
      fun s' heq => hQ s' (h.quiet (.of_eq heq)) (Rely.quiet (.of_eq heq))
    have hpass : ∀ (s' : Transport) buffer ppid isComplete, s'.view = s.view →
        ((passMessageToHandler c buffer ppid isComplete).run s').Safe (contract L) a fs s₀ Q := by
      intro s' buffer ppid isComplete heq
      refine passMessageToHandler_safe (h.quiet (.of_eq heq)) _ _ _ fun s'' hat hrely => ?_
      exact hQ s'' hat ((Rely.quiet (.of_eq heq)).trans hrely)
    simp only [Routine.run_bind, Routine.run_modify, Routine.run_get, Prog.bind, Routine.run_ite]
    generalize hs₁ : s.modifyContext c Context.allowUnordered = s₁
    have hview₁ : s₁.view = s.view := hs₁ ▸ s.view_allowUnordered c
    split
    · split
      · exact hdone _ (by simp [hview₁])
      · exact hpass _ _ _ _ (by simp [hview₁])
    · split
      · simp only [Prog.safe_bind]
        refine bufferMessageReceivedRaiseComplete_safe (h.quiet (.of_eq hview₁)) _ _ _ _ _ ?_
        rintro ⟨error, bufferInbound, infoInbound⟩ -
        simp only []
        split
        · exact hpass _ _ _ _ (by simp [hview₁])
        · exact hdone _ (by simp [hview₁])
        · exact hdone _ (by simp [hview₁])
      · exact hpass _ _ _ _ (by simp [hview₁])

theorem handleDataChannelAckMessage_safe {Q : Unit → Transport → Prop} (info : RcvInfo)
    (hQ : ∀ s', s'.view = s.view → Q () s') :
    ((handleDataChannelAckMessage info).run s).Safe (contract L) a fs s₀ Q := by
  simp only [handleDataChannelAckMessage, Routine.run_bind, Routine.run_get, Prog.bind]
  cases s.channels info.rcvSid with
  | none => exact hQ s rfl
  | some c =>
    simp only [Routine.run_ite]
    split
    · exact hQ s rfl
    · exact hQ _ (s.view_allowUnordered c)

section Dcep

variable [MessageBuffer]

theorem acknowledgeAndRegister_safe {Q : Bool → Transport → Prop} (h : At L a fs s₀ s)
    (info : RcvInfo) (hnext : c < s.nextChannel) (hnew : (s.view.channels c).sid = none)
    (hfree : s.channels info.rcvSid = none)
    (hsid : info.rcvSid < s.nChannels ∨ ¬ L.sidsBelow ∧ .connected ≤ s.state)
    (hQ : ∀ ok s', At L a fs s₀ s' → Rely (ongoing fs) s.view s'.view →
      (ok = false → (s'.view.channels c).sid = none) → Q ok s') :
    ((acknowledgeAndRegister c info).run s).Safe (contract L) a fs s₀ Q := by
  have hfail : Q false s := hQ _ s h (.refl _ _) fun _ => hnew
  simp only [acknowledgeAndRegister, Routine.run_bind, Prog.safe_bind]
  refine channelContextCreate_safe h _ _ ?_ hfail
  simp only [Routine.run_bind, Prog.safe_bind]
  refine dataChannelAckMessageCreate_safe h fun bufferOut => ?_
  cases bufferOut with
  | error _ => exact hfail
  | ok bufferOut =>
    simp only [Routine.run_bind, Prog.safe_bind, Routine.run_ite]
    refine sendMessage_safe h _ _ _ _ fun r s₁ hq => ?_
    split
    · simp only [Prog.safe_bind]
      -- sending the ACK message has left the slots as they were
      have hslots : s₁.channels = s.channels := hq.slots
      have hn : s₁.nChannels = s.nChannels := hq.nSlots
      have hstate : s₁.state = s.state := hq.state
      refine channelRegister_safe (h.quiet hq) _ true ?_ ?_ ?_ ?_ fun s' hat hrely => ?_
      · exact (hq.next ▸ hnext : c < s₁.view.next)
      · rw [hq.channels]; exact hnew
      · rw [hslots]; exact hfree
      · rw [hn, hstate]; exact hsid
      · exact hQ _ s' hat ((Rely.quiet hq).trans hrely) (by simp)
    · exact hQ _ s₁ (h.quiet hq) (Rely.quiet hq) fun _ => by rw [hq.channels]; exact hnew

theorem handleDataChannelOpenMessage_safe {Q : Unit → Transport → Prop} (h : At L a fs s₀ s)
    (bufferIn : Mbuf) (info : RcvInfo)
    (hsid : info.rcvSid < s.nChannels ∨ ¬ L.sidsBelow ∧ .connected ≤ s.state)
    (hmax : (s.nextChannel + 1 : ℕ) ≤ L.maxChannels)
    (hQ : ∀ s', At L a fs s₀ s' → Rely (ongoing fs) s.view s'.view → Q () s') :
    ((handleDataChannelOpenMessage bufferIn info).run s).Safe (contract L) a fs s₀ Q := by
  -- up to the creation of the channel every failure leaves things as they are
  have hfail : Q () s := hQ s h (.refl _ _)
  simp only [handleDataChannelOpenMessage, Routine.run_bind, run_roleGetter, Prog.bind]
  refine safe_system rfl h trivial fun dtlsRole => ?_
  cases dtlsRole with
  | error _ => exact hfail
  | ok dtlsRole =>
    simp only [Routine.run_ite]
    split
    · exact hfail
    · simp only [Routine.run_bind, Routine.run_get, Prog.bind, Routine.run_ite]
      split
      · exact hfail
      · next hfree =>
        have hfree : s.channels info.rcvSid = none := not_not.mp hfree
        simp only [Prog.safe_bind]
        refine dataChannelOpenMessageParse_safe h _ _ fun parameters => ?_
        cases parameters with
        | error _ => exact hfail
        | ok parameters =>
          simp only [Routine.run_bind, Prog.safe_bind, Routine.run_ite]
          refine sctpTransportGetDataTransport_safe h fun r => ?_
          split
          · exact hfail
          · simp only [Prog.safe_bind]
            refine dataChannelCreateInternal_safe h _ _ _ hmax fun r s₁ hat₁ hrely₁ hr => ?_
            cases r with
            | error _ => exact hQ s₁ hat₁ hrely₁
            | ok c =>
              -- the channel is there without a stream, and the slot is still free
              obtain ⟨hnext, hnew, hslots, hstate⟩ := hr c rfl rfl
              have hn : s₁.nChannels = s.nChannels := hrely₁.nSlots
              simp only [Routine.run_bind, Prog.safe_bind, Routine.run_ite]
              refine acknowledgeAndRegister_safe hat₁ info hnext hnew ?_ ?_
                fun ok s₂ hat₂ hrely₂ hnew₂ => ?_
              · rw [hslots]; exact hfree
              · rw [hn, hstate]; exact hsid
              · split
                · -- it has not been registered, so it may be destroyed
                  next hok =>
                  refine dataChannelDestroy_safe hat₂ (hnew₂ hok) fun s₃ hs₃ => ?_
                  exact hQ s₃ (hat₂.quiet (.of_eq hs₃))
                    ((hrely₁.trans hrely₂).trans (Rely.quiet (.of_eq hs₃)))
                · exact hQ s₂ hat₂ (hrely₁.trans hrely₂)

theorem handleDcepMessage_safe {Q : Unit → Transport → Prop} (h : At L a fs s₀ s)
    (buffer : Mbuf) (info : RcvInfo) (eor : Bool) (hsid : L.sidsBelow → info.rcvSid < s.nChannels)
    (hstate : .connected ≤ s.state) (hmax : (s.nextChannel + 1 : ℕ) ≤ L.maxChannels)
    (hQ : ∀ s', At L a fs s₀ s' → Rely (ongoing fs) s.view s'.view → Q () s') :
    ((handleDcepMessage buffer info eor).run s).Safe (contract L) a fs s₀ Q := by
  simp only [handleDcepMessage, Routine.run_bind, Routine.run_get, Prog.bind, Prog.safe_bind]
  refine bufferMessageReceivedRaiseComplete_safe h _ _ _ _ _ ?_
  rintro ⟨error, bufferDcepInbound, infoDcepInbound⟩ hr
  dsimp only at hr
  -- the info that is kept is the one of this piece or the one that was there
  have hsid' : L.sidsBelow → infoDcepInbound.rcvSid < s.nChannels := by
    intro hb
    rcases hr with rfl | rfl
    · exact h.inv.flags.dcepSid_lt hb
    · exact hsid hb
  simp only [Routine.run_modify, Prog.safe_ret]
  generalize hs₁ : s.keepDcep bufferDcepInbound infoDcepInbound = s₁
  have hview₁ : s₁.view = { s.view with dcepSid := infoDcepInbound.rcvSid } := by rw [← hs₁]; rfl
  have hrely₁ : Rely (ongoing fs) s.view s₁.view := hview₁ ▸ Rely.setDcepSid
  have hat₁ : At L a fs s₀ s₁ :=
    h.next (hview₁ ▸ h.inv.setDcepSid hsid') hrely₁.toForward
  have hfail : Q () (s₁.setDcepBuffer none) :=
    hQ _ (hat₁.quiet (.of_eq rfl)) (hrely₁.trans (Rely.quiet (.of_eq rfl)))
  split
  · exact hQ _ hat₁ hrely₁
  · next buffer =>
    simp only [Routine.run_bind, run_logEvent, Routine.run_modify, Prog.bind, Routine.run_ite]
    generalize hs₂ : Transport.setDcepBuffer (s₁.log _) _ = s₂
    have hq₂ : Quiet s₁.view s₂.view := hs₂ ▸ Quiet.log (e := .dcepMessage _ _) s₁.view trivial
    have hat₂ := hat₁.quiet hq₂
    have hend : ∀ s' : Transport, At L a fs s₀ s' → Rely (ongoing fs) s₂.view s'.view →
        Q () (s'.setDcepBuffer none) := fun s' hat hrely =>
      hQ _ (hat.quiet (.of_eq rfl))
        (((hrely₁.trans (Rely.quiet hq₂)).trans hrely).trans (Rely.quiet (.of_eq rfl)))
    split
    · simp only [Prog.safe_bind]
      refine handleDataChannelAckMessage_safe _ fun s' heq => ?_
      exact hend s' (hat₂.quiet (.of_eq heq)) (Rely.quiet (.of_eq heq))
    · split
      · simp only [Prog.safe_bind]
        have hn : s₂.nChannels = s.nChannels := hq₂.nSlots.trans hrely₁.nSlots
        have hst : s₂.state = s.state := hq₂.state.trans (by rw [hview₁]; rfl)
        have hnext : s₂.nextChannel = s.nextChannel := hq₂.next.trans (by rw [hview₁]; rfl)
        refine handleDataChannelOpenMessage_safe hat₂ _ _ ?_ ?_ fun s' hat hrely => ?_
        · rw [hn, hst]
          by_cases hb : L.sidsBelow
          · exact .inl (hsid' hb)
          · exact .inr ⟨hb, hstate⟩
        · rw [hnext]; exact hmax
        · exact hend s' hat hrely
      · exact hend s₂ hat₂ (.refl _ _)
  · exact hfail

theorem dataReceiveHandler_safe {Q : Unit → Transport → Prop} (h : At L a fs s₀ s)
    (buffer : Mbuf) (info : RcvInfo) (eor : Bool) (hsid : L.sidsBelow → info.rcvSid < s.nChannels)
    (hstate : .connected ≤ s.state) (hmax : (s.nextChannel + 1 : ℕ) ≤ L.maxChannels)
    (hQ : ∀ s', At L a fs s₀ s' → Rely (ongoing fs) s.view s'.view → Q () s') :
    ((dataReceiveHandler buffer info eor).run s).Safe (contract L) a fs s₀ Q := by
  simp only [dataReceiveHandler, Routine.run_ite]
  split
  · exact handleDcepMessage_safe h buffer info eor hsid hstate hmax hQ
  · exact handleApplicationMessage_safe h buffer info eor hQ

end Dcep

/-! ## Section 2: Partial delivery and sender dry -/

theorem handlePartialDeliveryEvent_safe {Q : Unit → Transport → Prop} (h : At L a fs s₀ s)
    (pdapiStream : Nat) (hQ : ∀ s', At L a fs s₀ s' → Rely (ongoing fs) s.view s'.view → Q () s') :
    ((handlePartialDeliveryEvent pdapiStream).run s).Safe (contract L) a fs s₀ Q := by
  simp only [handlePartialDeliveryEvent, Routine.run_bind, Routine.run_get, Prog.bind,
    Routine.run_ite]
  split
  · exact hQ s h (.refl _ _)
  · cases s.channels pdapiStream with
    | none => exact hQ s h (.refl _ _)
    | some c =>
      simp only [Routine.run_bind, Routine.run_modify, Routine.run_get, Prog.bind,
        Routine.run_ite, run_callHandler]
      have hq := Quiet.of_eq (s.view_storeInbound c none false)
      split
      · have hq' : Quiet s.view (Transport.log (s.modifyContext c (Context.storeInbound none false))
            (.handler (.messageHandler c none { isAborted := true }))).view :=
          hq.trans (Quiet.log _ trivial)
        refine safe_ordinary (.messageHandler c none { isAborted := true }) trivial
          (h.quiet hq') fun s' hat hrely => ?_
        exact hQ s' hat ((Rely.quiet hq').trans hrely.of_cons)
      · exact hQ _ (h.quiet hq) (Rely.quiet hq)

theorem serveSlot_safe {Q : Unit → Transport → Prop} (i : Nat) (h : At L a [] s₀ s)
    (hlow : s.flags.bufferedAmountLow = true)
    (hQ : ∀ s', At L a [] s₀ s' → Rely (ongoing []) s.view s'.view → Q () s') :
    ((serveSlot i).run s).Safe (contract L) a [] s₀ Q := by
  simp only [serveSlot, Routine.run_bind, Routine.run_get, Prog.bind]
  cases hslot : s.channels i with
  | none => exact hQ s h (.refl _ _)
  | some c =>
    simp only [Routine.run_ite]
    split
    · simp only [Routine.run_bind, Prog.safe_bind, Routine.run_modify, Prog.safe_ret]
      refine resetOutgoingStream_safe h hslot (h.not_closed hslot) (not_registering_nil c) ?_
      intro r s₁ hat₁ hr
      -- nothing waits while the buffered amount is low, so the reset was not postponed again
      have hidle : s.bufferedMessagesOutgoing = [] := by
        have := h.inv.flags.idle_of_low hlow
        simpa [Transport.view] using this
      have hsid : (s₁.view.channels c).sid ≠ none := by
        rw [hr.rely.sid (h.inv.slots.sid_of_slot hslot)]
        simp
      have hview := s₁.view_setPendingReset false hsid
      have hinv : Inv L (here a []) (s₁.view.setPendingReset c false) := by
        refine hat₁.inv.setPendingReset fun _ j hj _ => ?_
        by_cases hsuccess : r = .success
        · exact (hr.success hsuccess).2.2.2.2 hidle
        · exact absurd hj ((hr.failure hsuccess).2 j)
      have hrely : Rely (ongoing []) s₁.view (s₁.view.setPendingReset c false) :=
        Rely.setPendingReset c false
      exact hQ _ (hat₁.next (hview ▸ hinv) (hview ▸ hrely.toForward))
        (hr.rely.trans (hview ▸ hrely))
    · simp only [raiseBufferedAmountLowEvent, Routine.run_bind, Routine.run_get, Prog.bind,
        Routine.run_ite, run_callHandler]
      split
      · have hq : Quiet s.view (s.log (.handler (.bufferedAmountLowHandler c))).view :=
          Quiet.log _ trivial
        refine safe_ordinary (.bufferedAmountLowHandler c) trivial (h.quiet hq)
          fun s' hat hrely => ?_
        exact hQ s' hat ((Rely.quiet hq).trans hrely.of_cons)
      · exact hQ s h (.refl _ _)

theorem senderDryLoop_safe {Q : Nat → Transport → Prop} (stop fuel i : Nat) (h : At L a [] s₀ s)
    (hlow : s.flags.bufferedAmountLow = true)
    (hQ : ∀ i s', At L a [] s₀ s' → Rely (ongoing []) s.view s'.view → Q i s') :
    ((senderDryLoop stop fuel i).run s).Safe (contract L) a [] s₀ Q := by
  induction fuel generalizing i s with
  | zero => exact hQ i s h (.refl _ _)
  | succ fuel ih =>
    simp only [senderDryLoop, Routine.run_bind, Routine.run_get, Prog.bind, Prog.safe_bind,
      Routine.run_ite]
    refine serveSlot_safe i h hlow fun s₁ hat₁ hrely₁ => ?_
    split
    · exact hQ _ s₁ hat₁ hrely₁
    · next hlow₁ =>
      split
      · exact ih _ hat₁ (by simpa using hlow₁) fun i s' hat hrely => hQ i s' hat (hrely₁.trans hrely)
      · exact hQ _ s₁ hat₁ hrely₁

theorem handleSenderDryEvent_safe {Q : Unit → Transport → Prop} (h : At L a [] s₀ s)
    (hQ : ∀ s', At L a [] s₀ s' → Rely (ongoing []) s.view s'.view → Q () s') :
    (handleSenderDryEvent.run s).Safe (contract L) a [] s₀ Q := by
  simp only [handleSenderDryEvent, Routine.run_bind, Routine.run_get, Prog.bind, Routine.run_ite]
  split
  · exact hQ s h (.refl _ _)
  · next hqueue =>
    have hidle : s.view.idle = true := by
      have : s.bufferedMessagesOutgoing = [] := not_not.mp hqueue
      simp [Transport.view, this]
    simp only [Routine.run_modify, Prog.bind, Prog.safe_bind]
    have hrely : Rely (ongoing []) s.view { s.view with low := true } := Rely.setLow
    refine senderDryLoop_safe
      (s := { s with flags := { s.flags with bufferedAmountLow := true } }) _ _ _
      (h.next (h.inv.setLow hidle) hrely.toForward) rfl fun i s' hat hrely' => ?_
    exact hQ _ (hat.quiet (.of_eq rfl)) ((hrely.trans hrely').trans (Rely.quiet (.of_eq rfl)))

/-! ## Section 3: Stream resets -/

theorem closeIfBothReset_safe {Q : Unit → Transport → Prop} {i : Nat} (h : At L a [] s₀ s)
    (hslot : s.channels i = some c)
    (hQ : ∀ s', At L a [] s₀ s' → Rely (ongoing []) s.view s'.view → Q () s') :
    ((closeIfBothReset c).run s).Safe (contract L) a [] s₀ Q := by
  simp only [closeIfBothReset, Routine.run_bind, Routine.run_get, Prog.bind, Routine.run_ite]
  split
  · have hc := h.not_closed hslot
    simp only [Prog.safe_bind]
    refine dataChannelSetState_closed_safe h hslot hc fun s₁ hinv₁ hbut₁ _ hslot₁ hclosed₁ => ?_
    obtain ⟨-, -, hcontext⟩ := s₁.context_of_sid (hinv₁.slots.sid_of_slot hslot₁)
    simp only [run_clearSlot, hcontext, Prog.safe_ret]
    have hrely₁ : Rely (ongoing []) s.view s₁.view := by
      refine hbut₁.rely (fun hreg => absurd hreg (not_registering_nil c)) fun _ heq => ?_
      rw [show (s₁.view.channels c).state = .closed from hclosed₁] at heq
      cases heq
    have hrely := hrely₁.release hc hclosed₁ hslot₁
    exact hQ _ (h.next (hinv₁.release hslot₁ hclosed₁) hrely.toForward) hrely
  · exact hQ s h (.refl _ _)

theorem handleIncomingStreamReset_safe {Q : Bool → Transport → Prop} {i : Nat}
    (h : At L a [] s₀ s) (hslot : s.channels i = some c)
    (hQ : ∀ closed s', At L a [] s₀ s' → Rely (ongoing []) s.view s'.view →
      (closed = false → s'.channels i = some c) → Q closed s') :
    ((handleIncomingStreamReset c).run s).Safe (contract L) a [] s₀ Q := by
  simp only [handleIncomingStreamReset, Routine.run_bind, Routine.run_modify, Routine.run_get,
    Prog.bind, Routine.run_ite]
  have hview := s.view_flags c fun ch => { ch.flags with incomingStreamReset := true }
  have hq := Quiet.of_eq hview
  split
  · next hstate =>
    generalize hs₁ : Transport.modifyChannel _ _ _ = s₁ at hview hq hstate ⊢
    have hslot₁ : s₁.channels i = some c := by
      change s₁.view.slots i = some c
      rw [hview]
      exact hslot
    -- it has not begun to close
    have hlt : (s₁.dataChannels c).state < .closing := by
      revert hstate
      cases (s₁.dataChannels c).state <;> decide
    have hat₁ := h.quiet hq
    simp only [Prog.safe_bind]
    refine resetOutgoingStream_safe hat₁ hslot₁ (hat₁.not_closed hslot₁) (not_registering_nil c) ?_
    intro r s₂ hat₂ hr
    split
    · exact hQ _ s₂ hat₂ ((Rely.quiet hq).trans hr.rely) (by simp)
    · -- its own stream is going to be reset, so it may be set to closing
      next hsuccess =>
      obtain ⟨hslot₂, hstate₂, -, hreset, -⟩ := hr.success (not_not.mp hsuccess)
      have hlt₂ : (s₂.dataChannels c).state < .closing := by rw [hstate₂]; exact hlt
      obtain ⟨hat₃, hview₃⟩ := hat₂.closing hslot₂ hlt₂ hreset rfl
      simp only [run_dataChannelSetState_closing, Prog.bind]
      refine hQ _ _ hat₃ (((Rely.quiet hq).trans hr.rely).trans ?_) fun _ => hslot₂
      rw [hview₃]
      exact Rely.setChannelState hlt₂ (not_registering_nil c)
  · exact hQ _ _ (h.quiet hq) (Rely.quiet hq) fun _ => hslot

theorem handleStreamReset_safe {Q : Unit → Transport → Prop} (event : StreamResetEvent) (sid : Nat)
    (h : At L a [] s₀ s)
    (hQ : ∀ s', At L a [] s₀ s' → Rely (ongoing []) s.view s'.view → Q () s') :
    ((handleStreamReset event sid).run s).Safe (contract L) a [] s₀ Q := by
  simp only [handleStreamReset, Routine.run_bind, Routine.run_get, Prog.bind, Routine.run_ite]
  split
  · exact hQ s h (.refl _ _)
  · cases hslot : s.channels sid with
    | none => exact hQ s h (.refl _ _)
    | some c =>
      -- what happens after the incoming reset has been dealt with
      have hend : ∀ s₁ : Transport, At L a [] s₀ s₁ → Rely (ongoing []) s.view s₁.view →
          s₁.channels sid = some c →
          (Routine.run (if event.outgoingSsn = true then do
              modify (·.modifyChannel c fun ch =>
                { ch with flags := { ch.flags with outgoingStreamReset := true } })
              closeIfBothReset c
            else closeIfBothReset c) s₁).Safe (contract L) a [] s₀ Q := by
        intro s₁ hat₁ hrely₁ hslot₁
        have hq := Quiet.of_eq
          (s₁.view_flags c fun ch => { ch.flags with outgoingStreamReset := true })
        simp only [Routine.run_ite, Routine.run_bind, Routine.run_modify, Prog.bind]
        split
        · refine closeIfBothReset_safe (i := sid) (hat₁.quiet hq) hslot₁ fun s' hat hrely => ?_
          exact hQ s' hat ((hrely₁.trans (Rely.quiet hq)).trans hrely)
        · exact closeIfBothReset_safe hat₁ hslot₁ fun s' hat hrely =>
            hQ s' hat (hrely₁.trans hrely)
      simp only [Routine.run_ite]
      split
      · simp only [Routine.run_bind, Prog.safe_bind]
        refine handleIncomingStreamReset_safe h hslot fun closed s₁ hat₁ hrely₁ hslot₁ => ?_
        cases closed with
        | true => exact hQ s₁ hat₁ hrely₁
        | false => exact hend s₁ hat₁ hrely₁ (hslot₁ rfl)
      · exact hend s h (.refl _ _) hslot

theorem handleStreamResets_safe {Q : Unit → Transport → Prop} (event : StreamResetEvent)
    (sids : List Nat) (h : At L a [] s₀ s)
    (hQ : ∀ s', At L a [] s₀ s' → Rely (ongoing []) s.view s'.view → Q () s') :
    ((handleStreamResets event sids).run s).Safe (contract L) a [] s₀ Q := by
  induction sids generalizing s with
  | nil => exact hQ s h (.refl _ _)
  | cons sid sids ih =>
    simp only [handleStreamResets, Routine.run_bind, Prog.safe_bind]
    refine handleStreamReset_safe event sid h fun s₁ hat₁ hrely₁ => ?_
    exact ih hat₁ fun s' hat hrely => hQ s' hat (hrely₁.trans hrely)

theorem handleStreamResetEvent_safe {Q : Unit → Transport → Prop} (event : StreamResetEvent)
    (h : At L a [] s₀ s)
    (hQ : ∀ s', At L a [] s₀ s' → Rely (ongoing []) s.view s'.view → Q () s') :
    ((handleStreamResetEvent event).run s).Safe (contract L) a [] s₀ Q := by
  simp only [handleStreamResetEvent, Routine.run_ite]
  split
  · exact hQ s h (.refl _ _)
  · exact handleStreamResets_safe event _ h hQ

/-! ## Section 4: Socket events -/

/-- A call that starts where nothing is in progress. -/
theorem At.enter (h : Inv L (ongoing fs) s.view) : At L a fs s s :=
  ⟨h.mono ⟨fun _ => id, fun _ => id, .inl, id⟩, fun _ => le_refl _⟩

/-- A transport that is neither closed nor about to be closed is not detached. -/
theorem At.not_detached (h : At L a [] s₀ s) (hs : s.state ≠ .closed) :
    s.flags.detached = false := by
  rw [← Bool.not_eq_true]
  intro hd
  rcases h.inv.flags.closed_of_detached hd with hs' | ⟨b, hb⟩
  · exact hs hs'
  · cases hb

section Socket

variable [MessageBuffer]

theorem handleAssociationChangeEvent_safe {Q : Unit → Transport → Prop}
    (sacState : AssociationState) (hinv : Inv L (ongoing []) s.view)
    (hopens : sacState = .commUp → a.Opens) (hnot : sacState ≠ .commUp → ¬ a.Opens)
    (hQ : ∀ s', Inv L (ongoing []) s'.view → Rely (ongoing []) s.view s'.view → Q () s') :
    ((handleAssociationChangeEvent sacState).run s).Safe (contract L) a [] s Q := by
  have h : At L a [] s s := At.enter hinv
  have hfrozen : ¬ (ongoing []).frozen := by simp [ongoing]
  -- all ways in which the association ends are handled alike
  have hclose : sacState ≠ .commUp →
      (Routine.run (if s.flags.detached = false ∧ s.state ≠ .closed then setState .closed
        else pure ()) s).Safe (contract L) a [] s Q := by
    intro hne
    simp only [Routine.run_ite]
    split
    · next hopen =>
      exact setState_closed_safe h hopen.1 hopen.2 (not_closing hfrozen) hfrozen
        fun s' hat hrely => hQ s' (hat.done (hnot hne)) hrely
    · exact hQ s hinv (.refl _ _)
  simp only [handleAssociationChangeEvent, Routine.run_bind, Routine.run_get, Prog.bind]
  cases sacState with
  | commUp =>
    simp only [Routine.run_ite]
    split
    · next hs =>
      exact setState_connected_safe h (hopens rfl) (h.not_detached (by rw [hs]; simp)) hs
        not_registering_nil hfrozen hQ
    · exact hQ s hinv (.refl _ _)
  | commLost => exact hclose (by simp)
  | shutdownComp => exact hclose (by simp)
  | cantStrAssoc => exact hclose (by simp)
  | restart => exact hQ s hinv (.refl _ _)
  | other => exact hQ s hinv (.refl _ _)

theorem handleNotification_safe {Q : Unit → Transport → Prop} (snLength end_ : Nat)
    (notification : Notification) (hinv : Inv L (ongoing []) s.view)
    (ha : a = .readEvent (.notification snLength end_ notification))
    (hQ : ∀ s', Inv L (ongoing []) s'.view → Rely (ongoing []) s.view s'.view → Q () s') :
    ((handleNotification snLength end_ notification).run s).Safe (contract L) a [] s Q := by
  have hdone : ¬ a.Opens → ∀ s', At L a [] s s' → Rely (ongoing []) s.view s'.view → Q () s' :=
    fun hnot s' hat hrely => hQ s' (hat.done hnot) hrely
  -- only the association coming up opens channels
  have hopens : a.Opens ↔ notification = .assocChange .commUp := by
    subst ha
    simp [Call.Opens]
  simp only [handleNotification, Routine.run_ite]
  split
  · exact hQ s hinv (.refl _ _)
  · cases notification with
    | assocChange state =>
      refine handleAssociationChangeEvent_safe state hinv ?_ ?_ hQ
      · rintro rfl; exact hopens.mpr rfl
      · intro hne ho; exact hne (by simpa using hopens.mp ho)
    | partialDelivery pdapiStream =>
      exact handlePartialDeliveryEvent_safe (.enter hinv) _ (hdone (by simp [hopens]))
    | senderDry => exact handleSenderDryEvent_safe (.enter hinv) (hdone (by simp [hopens]))
    | streamReset event =>
      exact handleStreamResetEvent_safe event (.enter hinv) (hdone (by simp [hopens]))
    | sendFailed => exact hQ s hinv (.refl _ _)
    | shutdown => exact hQ s hinv (.refl _ _)
    | streamChange => exact hQ s hinv (.refl _ _)
    | other => exact hQ s hinv (.refl _ _)

/-- The stream id of what was received, if it is data. -/
def Received.SidBelow (n : Nat) : Received → Prop
  | .data _ (some info) _ => info.rcvSid < n
  | _ => True

theorem readEventHandler_safe {Q : EventMask → Transport → Prop} (received : Received)
    (hinv : Inv L (ongoing []) s.view) (ha : a = .readEvent received)
    (hsid : L.sidsBelow → received.SidBelow s.nChannels)
    (hmax : (s.nextChannel + 1 : ℕ) ≤ L.maxChannels)
    (hQ : ∀ r s', Inv L (ongoing []) s'.view → Rely (ongoing []) s.view s'.view → Q r s') :
    ((readEventHandler received).run s).Safe (contract L) a [] s Q := by
  have h : At L a [] s s := .enter hinv
  -- whatever is not handled changes nothing
  have hsame : ∀ r, Q r s := fun r => hQ r s hinv (.refl _ _)
  simp only [readEventHandler, Routine.run_bind, Routine.run_get, Prog.bind, Routine.run_ite]
  split
  · exact hsame _
  · simp only [Prog.safe_bind]
    refine alloc_safe h fun ok => ?_
    cases ok with
    | false => exact hsame _
    | true =>
      simp only [if_true]
      cases received with
      | error wouldBlock => exact hsame _
      | notification snLength end_ notification =>
        simp only [Routine.run_bind, Prog.safe_bind]
        exact handleNotification_safe snLength end_ notification hinv ha fun s' hinv' hrely =>
          hQ _ s' hinv' hrely
      | data bytes info eor =>
        simp only [Routine.run_bind, Routine.run_get, Prog.bind, Routine.run_ite]
        split
        · exact hsame _
        · next hstate =>
          cases info with
          | none => exact hsame _
          | some info =>
            -- data does not make the transport connected
            have hnot : ¬ a.Opens := by subst ha; simp [Call.Opens]
            simp only [Routine.run_bind, Prog.safe_bind]
            exact dataReceiveHandler_safe h _ info eor hsid (not_not.mp hstate).ge hmax
              fun s' hat hrely => hQ _ s' (hat.done hnot) hrely

theorem writeEventHandler_safe {Q : EventMask → Transport → Prop} (h : At L a fs s₀ s)
    (hQ : ∀ r s', At L a fs s₀ s' → Rely (ongoing fs) s.view s'.view → Q r s') :
    (writeEventHandler.run s).Safe (contract L) a fs s₀ Q := by
  simp only [writeEventHandler, Routine.run_bind, Routine.run_get, Prog.bind, Routine.run_ite]
  split
  · exact hQ _ s h (.refl _ _)
  · split
    · exact hQ _ s h (.refl _ _)
    · simp only [Routine.run_modify, Prog.bind, Prog.safe_bind]
      refine sctpSendDeferredMessages_safe
        (s := { s with flags := { s.flags with sendingInProgress := true } }) (h.quiet (.refl _))
        fun _ s' hq => ?_
      have hq' : Quiet s.view s'.view := hq
      exact hQ _ _ (h.quiet hq') (Rely.quiet hq')

end Socket

end RawrtcDataChannel
