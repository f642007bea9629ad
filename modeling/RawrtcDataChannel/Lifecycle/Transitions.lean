import RawrtcDataChannel.Lifecycle.Creation

/-!
# The life of the transport

`set_state` for each of the states it is used with, and the functions that start and stop the
transport.
-/

namespace RawrtcDataChannel

open Reentrant

variable {L : Limits} {a : Call} {fs : List (Call × Op)} {s₀ s : Transport} {c : ChannelId}

/-! ## Section 1: Closing the transport -/

theorem closeDataChannelsFrom_safe {Q : Unit → Transport → Prop} (i left : Nat)
    (h : At L a fs s₀ s) (hclosing : ∀ c, ¬ (ongoing fs).closing c)
    (hQ : ∀ s', At L a fs s₀ s' → Forward s.view s'.view → Stays s.view s'.view → Q () s') :
    ((closeDataChannelsFrom i left).run s).Safe (contract L) a fs s₀ Q := by
  induction left generalizing i s with
  | zero => exact hQ s h (.refl _) (.refl _)
  | succ left ih =>
    simp only [closeDataChannelsFrom, Routine.run_bind, Routine.run_get, Prog.bind]
    cases hslot : s.channels i with
    | none => exact ih (i + 1) h hQ
    | some c =>
      -- nobody else is closing this channel
      have hc : (s.dataChannels c).state ≠ .closed :=
        fun heq => hclosing c (h.inv.slots.closed hslot heq)
      simp only [Routine.run_bind, Prog.safe_bind]
      refine dataChannelSetState_closed_safe h hslot hc ?_
      intro s₁ hinv₁ hbut₁ hstays₁ hslot₁ hclosed₁
      simp only [run_clearSlot, Prog.safe_ret]
      have hf : Forward s.view (s₁.view.release i c) :=
        hbut₁.toForward.release hc hclosed₁ hslot₁
      refine ih (i + 1) (h.next (hinv₁.release hslot₁ hclosed₁) hf) fun s' hat hf' hstays' => ?_
      exact hQ s' hat (hf.trans hf')
        (hstays₁.trans ⟨hstays'.state, hstays'.detached, hstays'.socket⟩)

/-- What holds of the transport right before it is marked as closed. -/
structure Detached (L : Limits) (a : Call) (fs : List (Call × Op)) (s₀ s s' : Transport) :
    Prop where
  inv : Inv L (here a fs).withDetaching s'.view
  forward : Forward s.view s'.view
  detached : s'.flags.detached = true
  state : s'.state = s.state

section Shutdown

variable {v v' : View}

/-- As long as the transport is not detached, nothing has been shut down. -/
theorem Inv.no_shutdown {g : Ongoing} (h : Inv L g v) (hd : v.detached = false) {e : Event}
    (he : e.IsShutdown) : e ∉ v.history := by
  intro hm
  have hfits := h.history.fits e hm
  cases e with
  | handler hd' => cases hd' <;> first | exact he.elim | simp [View.Fits, hd] at hfits
  | _ => first | exact he.elim | simp [View.Fits, hd] at hfits

end Shutdown

theorem detachTransport_safe {Q : Unit → Transport → Prop} {s₁ : Transport}
    (h : At L a fs s₀ s₁) (hf : Forward s.view s₁.view) (hd : s.flags.detached = false)
    (hd₁ : s₁.flags.detached = false) (hstate : s₁.state = s.state)
    (hQ : ∀ s', Detached L a fs s₀ s s' → .usrsctpClose ∉ s'.history → .fclose ∉ s'.history →
      Q () s') :
    (detachTransport.run s₁).Safe (contract L) a fs s₀ Q := by
  have hinv : Inv L (here a fs).withDetaching s₁.detach.view :=
    (h.inv.mono (Ongoing.le_withDetaching _)).detach trivial
  have hf₁ : Forward s.view s₁.detach.view := hf.detach hd
  have hmono : ∀ c, (s₀.dataChannels c).state ≤ (s₁.detach.dataChannels c).state := h.mono
  have hnone : ∀ e : Event, e.IsShutdown → e ∉ s₁.history :=
    fun e he => h.inv.no_shutdown hd₁ he
  simp only [detachTransport, Routine.run_bind, Routine.run_modify, Routine.run_get, Prog.bind,
    Routine.run_ite, run_callHandler]
  split
  · refine safe_handler (g := (here a fs).withDetaching) ?_ hmono ?_ ?_ ?_ ?_
    · exact hinv.log_shutdown trivial rfl (hnone _ trivial)
    · refine ⟨here_le_ongoing.closing, here_le_ongoing.registering, here_le_ongoing.opening, ?_⟩
      exact fun _ => ⟨a, List.mem_cons_self⟩
    · refine ongoing_le_of (Ongoing.le_withDetaching _) ?_ ?_ (fun _ => trivial)
      · rintro c heq; cases heq
      · rintro c heq; cases heq
    · rintro c heq; cases heq
    · intro s₂ hinv₂ hrely₂
      -- nothing else was shut down while the handler ran
      obtain ⟨hd₂, hstate₂, -, hev⟩ := hrely₂.detached rfl
      have hold : ∀ e : Event, e.IsShutdown → e ≠ .handler .detachHandler → e ∉ s₂.history := by
        intro e he hne hm
        have hm' := hev e he hm
        simp only [Transport.view_log, View.history_log, List.mem_append, List.mem_singleton]
          at hm'
        exact hm'.elim (hnone e he) hne
      refine hQ s₂ ⟨hinv₂, ?_, hd₂, hstate₂.trans hstate⟩ (hold _ trivial (by simp))
        (hold _ trivial (by simp))
      exact (hf₁.log_shutdown (e := .handler .detachHandler) trivial hd).trans hrely₂.toForward
  · exact hQ _ ⟨hinv, hf₁, rfl, hstate⟩ (hnone _ trivial) (hnone _ trivial)

theorem closeSocket_safe {Q : Unit → Transport → Prop} {s₁ : Transport}
    (h : Detached L a fs s₀ s s₁) (hd : s.flags.detached = false)
    (hsocket : .usrsctpClose ∉ s₁.history) (hfile : .fclose ∉ s₁.history)
    (hQ : ∀ s', Detached L a fs s₀ s s' → .fclose ∉ s'.history → Q () s') :
    (closeSocket.run s₁).Safe (contract L) a fs s₀ Q := by
  simp only [closeSocket, Routine.run_bind, Routine.run_get, Prog.bind, Routine.run_ite,
    run_logEvent, Routine.run_modify]
  split
  · refine hQ _ ⟨?_, ?_, h.detached, h.state⟩ ?_
    · exact (h.inv.log_shutdown (e := .usrsctpClose) trivial h.detached hsocket).closeSocket
    · exact (h.forward.log_shutdown (e := .usrsctpClose) trivial hd).closeSocket hd
    · change .fclose ∉ s₁.history ++ [.usrsctpClose]
      simpa using hfile
  · exact hQ _ h hfile

theorem closeTraceFile_safe {Q : Unit → Transport → Prop} {s₁ : Transport}
    (h : Detached L a fs s₀ s s₁) (hd : s.flags.detached = false)
    (hfile : .fclose ∉ s₁.history) (hQ : ∀ s', Detached L a fs s₀ s s' → Q () s') :
    (closeTraceFile.run s₁).Safe (contract L) a fs s₀ Q := by
  simp only [closeTraceFile, Routine.run_bind, Routine.run_get, Prog.bind, Routine.run_ite,
    run_logEvent]
  split
  · refine hQ _ ⟨?_, ?_, h.detached, h.state⟩
    · exact h.inv.log_shutdown (e := .fclose) trivial h.detached hfile
    · exact h.forward.log_shutdown (e := .fclose) trivial hd
  · exact hQ _ h

theorem closeTransport_safe {Q : Unit → Transport → Prop} (h : At L a fs s₀ s)
    (hd : s.flags.detached = false) (hclosing : ∀ c, ¬ (ongoing fs).closing c)
    (hQ : ∀ s', Detached L a fs s₀ s s' → Q () s') :
    (closeTransport.run s).Safe (contract L) a fs s₀ Q := by
  simp only [closeTransport, closeDataChannels, Routine.run_bind, Routine.run_get, Prog.bind,
    Prog.safe_bind]
  refine closeDataChannelsFrom_safe 0 _ h hclosing fun s₁ hat₁ hf₁ hstays₁ => ?_
  refine detachTransport_safe hat₁ hf₁ hd (hstays₁.detached.trans hd) hstays₁.state ?_
  intro s₂ h₂ hsocket hfile
  refine closeSocket_safe h₂ hd hsocket hfile fun s₃ h₃ hfile₃ => ?_
  exact closeTraceFile_safe h₃ hd hfile₃ hQ

/-! ## Section 2: Setting the state of the transport -/

/-- The end of `set_state`: the state is reported. -/
theorem reportState_safe {Q : Unit → Transport → Prop} (h : At L a fs s₀ s)
    (hnew : ∀ s', .handler (.stateChangeHandler s') ∈ s.history → s' < s.state)
    (hQ : ∀ s', At L a fs s₀ s' → (s' = s ∨ ∃ s₁ : Transport,
      s₁.view = s.view.log (.handler (.stateChangeHandler s.state)) ∧
      Rely (ongoing ((a, .handler (.stateChangeHandler s.state)) :: fs)) s₁.view s'.view) →
      Q () s') {state : TransportState} (hstate : s.state = state) :
    ((if s.stateChangeHandler = true then
        (callHandler (.stateChangeHandler state)).run s
      else .ret () s : Prog Op Op.Reply Transport Unit)).Safe (contract L) a fs s₀ Q := by
  subst hstate
  split
  · simp only [run_callHandler]
    have hinv := h.inv.report (s := s.state) (le_refl _) hnew
    refine safe_ordinary (.stateChangeHandler s.state) trivial ⟨hinv, h.mono⟩ ?_
    intro s' hat hrely
    exact hQ s' hat (.inr ⟨_, rfl, hrely⟩)
  · exact hQ s h (.inl rfl)

theorem reports_lt {g : Ongoing} {v : View} (h : Inv L g v) {s : TransportState}
    (hlt : v.state < s) : ∀ s', .handler (.stateChangeHandler s') ∈ v.history → s' < s :=
  fun _ hm => lt_of_le_of_lt (h.history.fits _ hm) hlt

/-- Once no channel is waiting any more, nothing is left to be opened. -/
theorem Inv.opened {g : Ongoing} {v : View} (h : Inv L (here a fs) v) (hg : g = ongoing fs)
    (hnone : v.state = .connected → ∀ i c, v.slots i = some c →
      (v.channels c).state ≠ .connecting) : Inv L g v := by
  subst hg
  exact {
    slots := { h.slots with
      connected := fun hs i c hi hc => absurd hc (hnone hs i c hi) }
    history := h.history
    flags := { h.flags with } }

section SetState

variable [MessageBuffer]

theorem setState_closed_safe {Q : Unit → Transport → Prop} (h : At L a fs s₀ s)
    (hd : s.flags.detached = false) (hopen : s.state ≠ .closed)
    (hclosing : ∀ c, ¬ (ongoing fs).closing c) (hfrozen : ¬ (ongoing fs).frozen)
    (hQ : ∀ s', At L a fs s₀ s' → Rely (ongoing fs) s.view s'.view → Q () s') :
    ((setState .closed).run s).Safe (contract L) a fs s₀ Q := by
  simp only [setState, Routine.run_bind, Routine.run_modify, run_logEvent, Routine.run_get,
    Prog.bind, Routine.run_ite, Prog.safe_bind, if_true,
    if_neg (show TransportState.closed ≠ .connected by decide), Routine.run_pure]
  refine closeTransport_safe h hd hclosing fun s₁ h₁ => ?_
  have hlt : s₁.view.state < .closed :=
    lt_of_le_of_ne (TransportState.le_closed _) (h₁.state.trans_ne hopen)
  have hview : (Transport.log (s₁.setState .closed) (.transportState .closed)).view =
      s₁.view.enter .closed := rfl
  have hf : Forward s.view (s₁.view.enter .closed) := h₁.forward.enter hd hlt
  have hat : At L a fs s₀ (Transport.log (s₁.setState .closed) (.transportState .closed)) :=
    h.next (h₁.inv.enter_closed hlt.ne h₁.detached) hf
  -- to everybody else a closed transport explains whatever has changed
  have hrely : ∀ s' : Transport, Forward s.view s'.view → s'.state = .closed →
      Rely (ongoing fs) s.view s'.view := by
    intro s' hf' hclosed
    refine ⟨hf', fun _ hs' => ?_, fun _ _ _ _ => .inr hclosed, fun hg => absurd hg hfrozen⟩
    rw [show s'.view.state = .closed from hclosed] at hs'
    cases hs'
  refine reportState_safe hat ?_ ?_ rfl
  · -- CLOSED has not been reported before, because states only grow
    intro s' hm
    have hm' : .handler (.stateChangeHandler s') ∈ s₁.history ++ [.transportState .closed] := hm
    have hold : .handler (.stateChangeHandler s') ∈ s₁.history := by simpa using hm'
    exact reports_lt h₁.inv hlt s' hold
  · rintro s' hat' (rfl | ⟨s₂, hs₂, hrely'⟩)
    · exact hQ _ hat (hrely _ hf rfl)
    · -- the handler may have been called, and a closed transport stays closed
      have hne : (s₁.view.enter .closed).state ≠ s.view.state := fun heq => hopen heq.symm
      have hf₂ : Forward s.view s₂.view := hs₂ ▸ hf.report hne
      refine hQ _ hat' (hrely _ (hf₂.trans hrely'.toForward) ?_)
      refine le_antisymm (TransportState.le_closed _) ?_
      have := hrely'.state
      rw [hs₂] at this
      exact this

/-- The transition to connecting, while the transport is started. -/
theorem setState_connecting_safe {Q : Unit → Transport → Prop} (h : At L a fs s₀ s)
    (hstart : ∃ n, a = .start n) (hd : s.flags.detached = false) (hnew : s.state = .new)
    (hreg : ∀ c, ¬ (ongoing fs).registering c) (hfrozen : ¬ (ongoing fs).frozen)
    (hQ : ∀ s', At L a fs s₀ s' → Rely (ongoing fs) s.view s'.view → s'.flags.detached = false →
      s'.state = .connecting → Q () s') :
    ((setState .connecting).run s).Safe (contract L) a fs s₀ Q := by
  simp only [setState, Routine.run_bind, Routine.run_modify, run_logEvent, Routine.run_get,
    Prog.bind, Routine.run_ite,
    if_neg (show TransportState.connecting ≠ .closed by decide),
    if_neg (show TransportState.connecting ≠ .connected by decide), Routine.run_pure]
  have hlt : s.view.state < .connecting := by
    change s.state < .connecting
    rw [hnew]
    decide
  have hinv : Inv L (here a fs) (s.view.enter .connecting) :=
    h.inv.enter hlt (by decide) (fun heq => by cases heq)
  have hat : At L a fs s₀ (Transport.log (s.setState .connecting) (.transportState .connecting)) :=
    h.next hinv ((Forward.refl s.view).enter hd hlt)
  have hrely : ∀ s' : Transport, Forward s.view s'.view → Rely (ongoing fs) s.view s'.view := by
    refine fun s' hf' => ⟨hf', fun hs => ?_, fun c hc => absurd hc (hreg c),
      fun hg => absurd hg hfrozen⟩
    rw [show s.view.state = .new from hnew] at hs
    cases hs
  refine reportState_safe hat ?_ ?_ rfl
  · intro s' hm
    have hm' : .handler (.stateChangeHandler s') ∈ s.history ++ [.transportState .connecting] := hm
    have hold : .handler (.stateChangeHandler s') ∈ s.history := by simpa using hm'
    exact reports_lt h.inv hlt s' hold
  · rintro s' hat' (rfl | ⟨s₂, hs₂, hrely'⟩)
    · exact hQ _ hat (hrely _ ((Forward.refl s.view).enter hd hlt)) hd rfl
    · -- the handler does not stop the transport
      have hstays := hrely'.stays ⟨_, List.mem_cons_self, .inr (.inl ⟨hstart, rfl⟩)⟩
      have hf₂ : Forward s.view s₂.view :=
        hs₂ ▸ ((Forward.refl s.view).enter hd hlt).report hlt.ne'
      refine hQ _ hat' (hrely _ (hf₂.trans hrely'.toForward)) ?_ ?_
      · exact hstays.detached.trans (by rw [hs₂]; exact hd)
      · exact hstays.state.trans (by rw [hs₂]; rfl)

omit [MessageBuffer] in
/-- The loop that opens the channels that are waiting. -/
theorem setDataChannelStatesFrom_safe {Q : Unit → Transport → Prop} (hopens : a.Opens)
    (hreg : ∀ c, ¬ (ongoing fs).registering c) (i left : Nat) (h : At L a fs s₀ s)
    (hstate : s.state = .connected)
    (hbelow : ∀ j c, s.channels j = some c → (s.dataChannels c).state = .connecting →
      i ≤ j ∧ j < i + left)
    (hQ : ∀ s', At L a fs s₀ s' → Rely (ongoing fs) s.view s'.view → Stays s.view s'.view →
      (∀ j c, s'.channels j = some c → (s'.dataChannels c).state ≠ .connecting) → Q () s') :
    ((setDataChannelStatesFrom .opened (some .connecting) i left).run s).Safe (contract L) a fs s₀
      Q := by
  induction left generalizing i s with
  -- no slot is left, so nobody waits any more
  | zero =>
    refine hQ s h (.refl _ _) (.refl _) fun j c hj hc => ?_
    have := hbelow j c hj hc
    omega
  | succ left ih =>
    simp only [setDataChannelStatesFrom, Routine.run_bind, Routine.run_get, Prog.bind]
    cases hslot : s.channels i with
    | none =>
      refine ih (i + 1) h hstate (fun j c hj hc => ?_) hQ
      have hne : j ≠ i := by rintro rfl; rw [hslot] at hj; cases hj
      have := hbelow j c hj hc
      omega
    | some c =>
      simp only [Option.all_some, decide_eq_true_eq, Routine.run_ite]
      split
      · -- this channel waits: it is opened, and its handler may use the library
        next hc =>
        simp only [Routine.run_bind, Prog.safe_bind]
        refine dataChannelSetState_opened_safe (h.inv.mono (Ongoing.le_withRegistering _ c)) h.mono
          hslot hc hstate.ge fun s' hat hbut hstays hne => ?_
        have hstays := hstays hopens
        have hrely : Rely (ongoing fs) s.view s'.view :=
          hbut.rely (fun hc => absurd hc (hreg c)) fun _ => hne
        have hstate' : s'.state = .connected := hstays.state.trans hstate
        refine ih (i + 1) hat hstate' (fun j c' hj hc' => ?_) fun s'' hat' hrely' hstays' hnone =>
          hQ s'' hat' (hrely.trans hrely') (hstays.trans hstays') hnone
        -- meanwhile no other channel has begun to wait
        obtain ⟨hj₀, hc₀⟩ := hrely.connecting hstate hstate' hj hc'
        have hne' : j ≠ i := by
          rintro rfl
          have hj₁ : s.channels j = some c' := hj₀
          rw [hslot] at hj₁
          obtain rfl := Option.some.inj hj₁
          exact hne hc'
        have := hbelow j c' hj₀ hc₀
        omega
      · -- this one does not wait
        next hc =>
        refine ih (i + 1) h hstate (fun j c' hj hc' => ?_) hQ
        have hne : j ≠ i := by
          rintro rfl
          rw [hslot] at hj
          obtain rfl := Option.some.inj hj
          exact hc hc'
        have := hbelow j c' hj hc'
        omega

/-- The transition to connected. -/
theorem setState_connected_safe {Q : Unit → Transport → Prop} (h : At L a fs s₀ s)
    (hopens : a.Opens) (hd : s.flags.detached = false) (hstate : s.state = .connecting)
    (hreg : ∀ c, ¬ (ongoing fs).registering c) (hfrozen : ¬ (ongoing fs).frozen)
    (hQ : ∀ s', Inv L (ongoing fs) s'.view → Rely (ongoing fs) s.view s'.view → Q () s') :
    ((setState .connected).run s).Safe (contract L) a fs s₀ Q := by
  simp only [setState, setDataChannelStates, Routine.run_bind, Routine.run_modify, run_logEvent,
    Routine.run_get, Prog.bind, Routine.run_ite, Prog.safe_bind, if_true,
    if_neg (show TransportState.connected ≠ .closed by decide), Routine.run_pure]
  have hlt : s.view.state < .connected := by
    change s.state < .connected
    rw [hstate]
    decide
  have hf : Forward s.view (s.view.enter .connected) := (Forward.refl s.view).enter hd hlt
  have hinv : Inv L (here a fs) (s.view.enter .connected) :=
    h.inv.enter hlt (by decide) (fun _ => .inr hopens)
  -- all slots that are in use are below the bound of the loop
  have hslots : ∀ j c, s.channels j = some c → j < s.nChannels := by
    intro j c hj
    exact (h.inv.slots.slot_lt hj).resolve_right fun hb => absurd hlt hb.2.not_gt
  generalize hs₁ : Transport.log (s.setState .connected) (.transportState .connected) = s₁
  have hview₁ : s₁.view = s.view.enter .connected := hs₁ ▸ rfl
  have hat₁ : At L a fs s₀ s₁ := h.next (hview₁ ▸ hinv) (hview₁ ▸ hf)
  refine sctpSendDeferredMessages_safe hat₁ fun r s₂ hq => ?_
  have hstate₂ : s₂.state = .connected := hq.state.trans (by rw [hview₁]; rfl)
  refine setDataChannelStatesFrom_safe hopens hreg 0 _ (hat₁.quiet hq) hstate₂ ?_ ?_
  · intro j c hj _
    have hj₁ : s₂.view.slots j = some c := hj
    rw [hq.slots, hview₁] at hj₁
    have hn : s₂.view.nSlots = s.view.nSlots := hq.nSlots.trans (by rw [hview₁]; rfl)
    have := hslots j c hj₁
    change 0 ≤ j ∧ j < 0 + s₂.view.nSlots
    rw [hn]
    exact ⟨Nat.zero_le _, by rw [Nat.zero_add]; exact this⟩
  · intro s₃ hat₃ hrely₃ hstays₃ hnone₃
    have hrely : Rely (ongoing fs) s₁.view s₃.view := (Rely.quiet hq).trans hrely₃
    have hstate₃ : s₃.state = .connected := hstays₃.state.trans hstate₂
    have hf₃ : Forward s.view s₃.view := (hview₁ ▸ hf : Forward s.view s₁.view).trans hrely.toForward
    have hdone : ∀ s' : Transport, Forward s.view s'.view → Rely (ongoing fs) s.view s'.view := by
      refine fun s' hf' => ⟨hf', fun hs => ?_, fun c hc => absurd hc (hreg c),
        fun hg => absurd hg hfrozen⟩
      rw [show s.view.state = .connecting from hstate] at hs
      cases hs
    refine reportState_safe hat₃ ?_ ?_ hstate₃
    · intro s' hm
      rw [hstate₃]
      have hm₁ := hrely.reports (hstate₃.trans (by rw [hview₁]; rfl)) s' hm
      rw [hview₁] at hm₁
      exact reports_lt h.inv hlt s' (by simpa using hm₁)
    · rintro s' hat' (rfl | ⟨s₄, hs₄, hrely'⟩)
      · exact hQ _ (hat₃.inv.opened rfl fun _ i c hi => hnone₃ i c hi) (hdone _ hf₃)
      · have hne : s₃.view.state ≠ s.view.state := by
          rw [show s₃.view.state = .connected from hstate₃]
          exact hlt.ne'
        have hf₄ : Forward s.view s₄.view := hs₄ ▸ hf₃.report hne
        refine hQ _ (hat'.inv.opened rfl fun hs i c hi hc => ?_)
          (hdone _ (hf₄.trans hrely'.toForward))
        have hs₄' : s₄.view.state = .connected := by rw [hs₄]; exact hstate₃
        obtain ⟨hi₄, hc₄⟩ := hrely'.connecting hs₄' hs hi hc
        rw [hs₄] at hi₄ hc₄
        exact hnone₃ i c hi₄ hc₄

end SetState

/-! ## Section 3: Starting and stopping -/

/-- At the end of a call that opens nothing, only what waits around it is in progress. -/
theorem At.done (h : At L a fs s₀ s) (ha : ¬ a.Opens) : Inv L (ongoing fs) s.view :=
  h.inv.mono ⟨fun _ => id, fun _ => id, fun ho => ho.resolve_right ha, id⟩

/-- Who is closing a channel relies on the transport not being stopped. -/
theorem not_closing (h : ¬ (ongoing fs).frozen) (c : ChannelId) : ¬ (ongoing fs).closing c := by
  rintro ⟨b, hb⟩
  exact h ⟨_, hb, .inl ⟨c, rfl⟩⟩

theorem sctpTransportSetMtu_safe {Q : Code → Transport → Prop} (mtu : Nat) (h : At L a fs s₀ s)
    (hQ : ∀ r, Q r s) : ((sctpTransportSetMtu mtu).run s).Safe (contract L) a fs s₀ Q := by
  simp only [sctpTransportSetMtu, Routine.run_bind, Routine.run_get, Prog.bind, Routine.run_ite,
    run_usrsctpSetPeerAddrParams]
  split
  · exact hQ _
  · split
    · exact hQ _
    · refine safe_system rfl h trivial fun r => ?_
      cases r <;> exact hQ _

section Start

variable [MessageBuffer]

theorem sctpTransportStop_safe {Q : Code → Transport → Prop} (h : At L a fs s₀ s)
    (hfrozen : (ongoing fs).frozen → s.stopped)
    (hQ : ∀ r s', At L a fs s₀ s' → Rely (ongoing fs) s.view s'.view → Q r s') :
    (sctpTransportStop.run s).Safe (contract L) a fs s₀ Q := by
  simp only [sctpTransportStop, Routine.run_bind, Routine.run_get, Prog.bind, Routine.run_ite]
  split
  · exact hQ _ s h (.refl _ _)
  · next hstopped =>
    have hfrozen' : ¬ (ongoing fs).frozen := fun hf => hstopped (hfrozen hf)
    obtain ⟨hd, hopen⟩ := not_or.mp hstopped
    simp only [Prog.safe_bind]
    exact setState_closed_safe h (by simpa using hd) hopen (not_closing hfrozen') hfrozen'
      fun s' hat hrely => hQ _ s' hat hrely

theorem sctpTransportDestroy_safe {Q : Unit → Transport → Prop} (h : At L a fs s₀ s)
    (hfrozen : (ongoing fs).frozen → s.stopped)
    (hQ : ∀ s', At L a fs s₀ s' → Rely (ongoing fs) s.view s'.view → Q () s') :
    (sctpTransportDestroy.run s).Safe (contract L) a fs s₀ Q := by
  simp only [sctpTransportDestroy, Routine.run_bind, Routine.run_get, Prog.bind, Routine.run_ite,
    Prog.safe_bind]
  refine sctpTransportStop_safe h hfrozen fun _ s₁ hat₁ hrely₁ => ?_
  split
  · simp only [run_callHandler]
    have hq : Quiet s₁.view (s₁.log (.handler .destroyedHandler)).view := Quiet.log _ trivial
    refine safe_ordinary .destroyedHandler trivial (hat₁.quiet hq) fun s' hat hrely => ?_
    exact hQ s' hat (hrely₁.trans ((Rely.quiet hq).trans hrely.of_cons))
  · exact hQ s₁ hat₁ hrely₁

/-- Starting the transport, when nothing waits for anything. -/
theorem sctpTransportStart_safe {Q : Code → Transport → Prop} (n : Nat)
    (h : At L a [] s₀ s) (hstart : ∃ n, a = .start n)
    (hQ : ∀ r s', At L a [] s₀ s' → Rely (ongoing []) s.view s'.view → Q r s') :
    ((sctpTransportStart n).run s).Safe (contract L) a [] s₀ Q := by
  have hreg : ∀ c, ¬ (ongoing []).registering c := by simp [ongoing]
  have hfrozen : ¬ (ongoing []).frozen := by simp [ongoing]
  have hclosing := not_closing hfrozen
  simp only [sctpTransportStart, Routine.run_bind, Routine.run_get, Prog.bind, Routine.run_ite,
    Routine.run_modify, run_usrsctpConnect]
  split
  · exact hQ _ s h (.refl _ _)
  · next hnew =>
    have hnew : s.state = .new := not_not.mp hnew
    -- a new transport has not been detached, as nothing is closing it
    have hd : s.flags.detached = false := by
      rw [← Bool.not_eq_true]
      intro hd
      rcases h.inv.flags.closed_of_detached hd with hs | ⟨b, hb⟩
      · rw [show s.view.state = .new from hnew] at hs
        cases hs
      · cases hb
    refine safe_system rfl (h.quiet (.refl _)) trivial fun r => ?_
    have hconnect : (Routine.run (do
        setState .connecting
        let error ← sctpTransportSetMtu defaultMtu
        if error ≠ .success then
          setState .closed
        return error) (s.setRemoteMaximumMessageSize n)).Safe (contract L) a [] s₀ Q := by
      simp only [Routine.run_bind, Prog.safe_bind]
      refine setState_connecting_safe (s := s.setRemoteMaximumMessageSize n)
        (h.quiet (.refl _)) hstart hd hnew hreg hfrozen fun s₁ hat₁ hrely₁ hd₁ hstate₁ => ?_
      refine sctpTransportSetMtu_safe _ hat₁ fun error => ?_
      split
      · -- the MTU was refused, which closes the transport
        simp only [Routine.run_bind, Prog.safe_bind]
        refine setState_closed_safe hat₁ hd₁ (by rw [hstate₁]; simp) hclosing hfrozen
          fun s' hat hrely => ?_
        exact hQ _ s' hat (hrely₁.trans hrely)
      · exact hQ _ s₁ hat₁ hrely₁
    cases r with
    | success => exact hconnect
    | inProgress => exact hconnect
    -- the connection was refused at once
    | error reason =>
      simp only [Routine.run_bind, Prog.safe_bind]
      exact setState_closed_safe (s := s.setRemoteMaximumMessageSize n)
        (h.quiet (.refl _)) hd
        (by rw [show (s.setRemoteMaximumMessageSize n).state = .new from hnew]; simp) hclosing
        hfrozen fun s' hat hrely => hQ _ s' hat hrely

end Start

end RawrtcDataChannel
