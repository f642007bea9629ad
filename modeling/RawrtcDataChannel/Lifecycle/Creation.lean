import RawrtcDataChannel.Lifecycle.Channels

/-!
# Creating channels and sending on them

The functions of `Channel` that the application calls directly, apart from closing.
-/

namespace RawrtcDataChannel

open Reentrant

variable {L : Limits} {a : Call} {fs : List (Call × Op)} {s₀ s : Transport} {c : ChannelId}

/-! ## Section 1: Choosing a stream id -/

/-- A context for which a channel can be registered. -/
def FreeContext (s : Transport) (context : Context) : Prop :=
  s.channels context.sid = none ∧ context.sid < s.nChannels

theorem channelCreateNegotiated_safe {Q : Except Code Context → Transport → Prop}
    (h : At L a fs s₀ s) (parameters : DataChannelParameters)
    (hQ : ∀ r, (∀ context, r = .ok context → FreeContext s context) → Q r s) :
    ((channelCreateNegotiated parameters).run s).Safe (contract L) a fs s₀ Q := by
  simp only [channelCreateNegotiated, Routine.run_bind, Routine.run_get, Prog.bind,
    Routine.run_ite]
  split
  · exact hQ _ (by simp)
  · next hid =>
    simp only [not_or, not_lt, not_le, Decidable.not_not] at hid
    refine channelContextCreate_safe h _ _ (hQ _ ?_) (hQ _ (by simp))
    rintro context heq
    cases heq
    exact ⟨hid.2.2, hid.2.1⟩

theorem Transport.view_handlers (t : Transport) (c : ChannelId)
    (f : DataChannel → DataChannelHandlers) :
    (t.modifyChannel c fun ch => { ch with handlers := f ch }).view = t.view :=
  t.view_modifyChannel_self c _ rfl

theorem Transport.view_flags (t : Transport) (c : ChannelId)
    (f : DataChannel → DataChannelFlags) :
    (t.modifyChannel c fun ch => { ch with flags := f ch }).view = t.view :=
  t.view_modifyChannel_self c _ rfl

/-- Destroying a channel that has never been registered changes nothing but its handlers. -/
theorem dataChannelDestroy_safe {Q : Unit → Transport → Prop} (h : At L a fs s₀ s)
    (hnew : (s.view.channels c).sid = none) (hQ : ∀ s', s'.view = s.view → Q () s') :
    ((dataChannelDestroy c).run s).Safe (contract L) a fs s₀ Q := by
  simp only [dataChannelDestroy, dataChannelUnsetHandlers, Routine.run_bind, Routine.run_modify,
    Routine.run_pure, Prog.bind, Prog.safe_bind]
  have hview := s.view_handlers c fun _ => {}
  refine dataChannelClose_safe (h.quiet (hview ▸ .refl _)) ?_ ?_
  · rw [hview]
    exact fun hne => absurd hnew hne
  · intro r s' _ _ heq
    rw [heq (by rw [hview]; exact hnew)]
    exact hQ _ hview

section Create

variable [MessageBuffer]

theorem channelCreateInband_safe {Q : Except Code Context → Transport → Prop}
    (h : At L a fs s₀ s) (parameters : DataChannelParameters)
    (hQ : ∀ r s', Quiet s.view s'.view → (∀ context, r = .ok context → FreeContext s' context) →
      Q r s') :
    ((channelCreateInband parameters).run s).Safe (contract L) a fs s₀ Q := by
  -- up to the OPEN message nothing changes
  have herror : ∀ code, Q (.error code) s := fun code => hQ _ s (.refl _) (by simp)
  simp only [channelCreateInband, Routine.run_bind, run_stateGetter, Prog.bind]
  refine safe_system rfl h trivial fun dtlsState => ?_
  cases dtlsState with
  | error _ => exact herror _
  | ok dtlsState =>
    simp only [Routine.run_ite]
    split
    · exact herror _
    · simp only [Routine.run_bind, run_roleGetter, Prog.bind]
      refine safe_system rfl h trivial fun dtlsRole => ?_
      cases dtlsRole with
      | error _ => exact herror _
      | ok dtlsRole =>
        dsimp only
        cases hfirst : firstSid dtlsRole with
        | none => exact herror _
        | some i =>
          simp only [Routine.run_bind, Routine.run_get, Prog.bind]
          cases hfree : findFreeSid s s.nChannels i with
          | none => exact herror _
          | some j =>
            obtain ⟨hlt, hnone⟩ := findFreeSid_eq_some hfree
            -- stream ids fit 16 bits
            have hmod : j % 2 ^ 16 = j :=
              Nat.mod_eq_of_lt (lt_of_lt_of_le hlt (s.nChannels_le.trans (by decide)))
            simp only [Routine.run_bind, Prog.safe_bind]
            refine channelContextCreate_safe h _ _ ?_ (herror _)
            simp only [Routine.run_bind, Prog.safe_bind]
            refine dataChannelOpenMessageCreate_safe h parameters fun buffer => ?_
            cases buffer with
            | error _ => exact herror _
            | ok buffer =>
              simp only [Routine.run_bind, Prog.safe_bind]
              refine sendMessage_safe h _ _ _ _ fun r s' hq => ?_
              simp only [Routine.run_ite]
              split
              · -- sending touches no slots, so the one that was found is still free
                refine hQ _ s' hq ?_
                rintro context heq
                cases heq
                have hslots : s'.channels = s.channels := hq.slots
                have hn : s'.nChannels = s.nChannels := hq.nSlots
                simp only [FreeContext, hmod, hslots, hn]
                exact ⟨hnone, hlt⟩
              · exact hQ _ s' hq (by simp)

/-! ## Section 2: Creating a channel -/

theorem channelCreateHandler_safe {Q : Code → Transport → Prop} (h : At L a fs s₀ s)
    (parameters : DataChannelParameters) (hnext : c < s.nextChannel)
    (hnew : (s.view.channels c).sid = none)
    (hQ : ∀ r s', At L a fs s₀ s' → Rely (ongoing fs) s.view s'.view →
      (r ≠ .success → (s'.view.channels c).sid = none) → Q r s') :
    ((channelCreateHandler c parameters).run s).Safe (contract L) a fs s₀ Q := by
  have hregister : ∀ (r : Except Code Context) (s' : Transport), Quiet s.view s'.view →
      (∀ context, r = .ok context → FreeContext s' context) →
      ((registerCreatedChannel c r).run s').Safe (contract L) a fs s₀ Q := by
    intro r s' hq hr
    have hnew' : (s'.view.channels c).sid = none := by rw [hq.channels]; exact hnew
    cases r with
    | error error => exact hQ _ s' (h.quiet hq) (Rely.quiet hq) fun _ => hnew'
    | ok context =>
      obtain ⟨hfree, hlt⟩ := hr context rfl
      simp only [registerCreatedChannel, Routine.run_bind, Prog.safe_bind]
      have hnext' : c < s'.view.next := by rw [hq.next]; exact hnext
      refine channelRegister_safe (h.quiet hq) context false hnext' hnew' hfree (.inl hlt)
        fun s'' hat hrely => ?_
      exact hQ _ s'' hat ((Rely.quiet hq).trans hrely) (by simp)
  simp only [channelCreateHandler, Routine.run_bind, Routine.run_ite]
  split
  · simp only [Prog.safe_bind]
    refine channelCreateNegotiated_safe h parameters fun r hr => ?_
    exact hregister r s (.refl _) hr
  · simp only [Prog.safe_bind]
    refine channelCreateInband_safe h parameters fun r s' hq hr => ?_
    exact hregister r s' hq hr

theorem dataChannelCreateInternal_safe {Q : Except Code ChannelId → Transport → Prop}
    (h : At L a fs s₀ s) (parameters : DataChannelParameters) (handlers : DataChannelHandlers)
    (callCreateHandler : Bool) (hmax : (s.nextChannel + 1 : ℕ) ≤ L.maxChannels)
    (hQ : ∀ r s', At L a fs s₀ s' → Rely (ongoing fs) s.view s'.view →
      (∀ c, r = .ok c → callCreateHandler = false → c < s'.nextChannel ∧
        (s'.view.channels c).sid = none ∧ s'.channels = s.channels ∧ s'.state = s.state) →
      Q r s') :
    ((dataChannelCreateInternal parameters handlers callCreateHandler).run s).Safe
      (contract L) a fs s₀ Q := by
  simp only [dataChannelCreateInternal, Routine.run_bind, Prog.safe_bind]
  refine alloc_safe h fun ok => ?_
  cases ok with
  | false => exact hQ _ s h (.refl _ _) (by simp)
  | true =>
    simp only [if_true, Routine.run_bind, Routine.run_get, Routine.run_modify, Prog.bind,
      Routine.run_ite]
    generalize hs₁ : Transport.modifyChannel _ _ _ = s₁
    -- the object is made first, and it has no stream yet
    have hview : s₁.view = s.view.allocate := hs₁ ▸ s.view_allocate parameters handlers
    have hrely : Rely (ongoing fs) s.view s₁.view := hview ▸ Rely.allocate h.inv
    have hat : At L a fs s₀ s₁ := h.next (hview ▸ h.inv.allocate hmax) hrely.toForward
    have hnext : s.nextChannel < s₁.nextChannel := by
      change s.view.next < s₁.view.next
      rw [hview]
      exact Nat.lt_succ_self _
    have hnew : (s₁.view.channels s.nextChannel).sid = none := by
      rw [hview]
      exact congrArg ChannelView.sid (View.channels_allocate_self s.view)
    split
    · simp only [Prog.safe_bind]
      refine channelCreateHandler_safe hat parameters hnext hnew fun r s₂ hat₂ hrely₂ hr => ?_
      split
      · refine hQ _ _ (hat₂.quiet ?_) ?_ (fun _ _ hcall => by simp_all)
        · rw [s₂.view_flags]; exact .refl _
        · rw [s₂.view_flags]; exact hrely.trans hrely₂
      · -- the handler failed, so the object is destroyed again
        next hne =>
        simp only [Prog.safe_bind]
        refine dataChannelDestroy_safe hat₂ (hr hne) fun s₃ hs₃ => ?_
        refine hQ _ s₃ (hat₂.quiet (hs₃ ▸ .refl _)) ?_ (by simp)
        rw [hs₃]
        exact hrely.trans hrely₂
    · -- without the handler the object is all there is
      simp only [Routine.run_pure, Prog.safe_ret, if_true,
        Prog.bind]
      refine hQ _ _ (hat.quiet ?_) ?_ ?_
      · rw [s₁.view_flags]; exact .refl _
      · rw [s₁.view_flags]; exact hrely
      · rintro c heq -
        cases heq
        rw [s₁.view_flags]
        refine ⟨hnext, hnew, ?_, ?_⟩
        · change s₁.view.slots = s.view.slots
          rw [hview]
          rfl
        · change s₁.view.state = s.view.state
          rw [hview]
          rfl

/-! ## Section 3: Sending -/

theorem channelSendHandler_safe {Q : Code → Transport → Prop} (h : At L a fs s₀ s)
    (buffer : Option Mbuf) (isBinary : Bool) (hQ : ∀ r s', Quiet s.view s'.view → Q r s') :
    ((channelSendHandler c buffer isBinary).run s).Safe (contract L) a fs s₀ Q := by
  simp only [channelSendHandler, Routine.run_bind, Routine.run_get, Prog.bind, Routine.run_ite]
  split
  · simp only [Prog.safe_bind]
    refine alloc_safe h fun ok => ?_
    cases ok with
    | false => exact hQ _ s (.refl _)
    | true => exact sendMessage_safe h _ _ _ _ hQ
  · split
    · exact hQ _ s (.refl _)
    · exact sendMessage_safe h _ _ _ _ hQ

theorem dataChannelSend_safe {Q : Code → Transport → Prop} (h : At L a fs s₀ s)
    (buffer : Option Mbuf) (isBinary : Bool)
    (hQ : ∀ r s', At L a fs s₀ s' → Rely (ongoing fs) s.view s'.view → Q r s') :
    ((dataChannelSend c buffer isBinary).run s).Safe (contract L) a fs s₀ Q := by
  simp only [dataChannelSend, Routine.run_bind, Routine.run_get, Prog.bind, Routine.run_ite]
  split
  · exact hQ _ s h (.refl _ _)
  · next hopened =>
    have hopened : (s.view.channels c).state = .opened := not_not.mp hopened
    -- only a registered channel can be open
    have hnext : c < s.nextChannel := by
      refine not_le.mp fun hle => ?_
      have hnone := h.inv.slots.unregistered_of_next_le hle
      rw [h.inv.slots.connecting_of_unregistered hnone] at hopened
      cases hopened
    simp only [Prog.safe_bind]
    refine channelSendHandler_safe h buffer isBinary fun r s' hq => ?_
    split
    · have hopened' : (s'.view.channels c).state ≤ .opened := by rw [hq.channels, hopened]
      have hnext' : c < s'.view.next := by rw [hq.next]; exact hnext
      have hrely : Rely (ongoing fs) s'.view (s'.log (.messageAccepted c)).view :=
        Rely.log (by exact id) (by simp)
      simp only [run_logEvent, Prog.bind]
      exact hQ _ _ ((h.quiet hq).next ((h.quiet hq).inv.log_messageAccepted hopened' hnext')
        hrely.toForward) ((Rely.quiet hq).trans hrely)
    · exact hQ _ s' (h.quiet hq) (Rely.quiet hq)

end Create

/-! ## Section 4: Attributes -/

theorem dataChannelSetStreaming_safe {Q : Code → Transport → Prop} (on : Bool)
    (hQ : ∀ r s', s'.view = s.view → Q r s') :
    ((dataChannelSetStreaming c on).run s).Safe (contract L) a fs s₀ Q := by
  simp only [dataChannelSetStreaming, channelSetStreamingHandler, Routine.run_bind,
    Routine.run_get, Prog.bind, Routine.run_ite]
  split
  · exact hQ _ s rfl
  · split
    · exact hQ _ s rfl
    · split
      · exact hQ _ s rfl
      · exact hQ _ _ (s.view_flags c _)

end RawrtcDataChannel
