import RawrtcDataChannel.Lifecycle.Invariant

/-!
# Changes of a view

For each change the code makes: what has to hold before it so that the lifecycle invariant holds
after it, and what it means for those who rely on nothing going back.
-/

namespace RawrtcDataChannel

open Reentrant

variable {L : Limits} {g g' : Ongoing} {v v' v'' : View} {c : ChannelId} {e : Event}

/-! ## Section 1: The history -/

/-- How a view may change so that what past events say stays true. -/
structure Evolves (v v' : View) : Prop where
  next : v.next ≤ v'.next
  states : ∀ c, (v.channels c).state ≤ (v'.channels c).state
  sid : ∀ ⦃c i⦄, (v.channels c).sid = some i → (v'.channels c).sid = some i
  slots : ∀ ⦃i c⦄, v'.slots i = some c → v.slots i = some c ∨ (v.channels c).sid = none
  state : v.state ≤ v'.state
  detached : v.detached = true → v'.detached = true

theorem Evolves.fits (h : Evolves v v') (he : v.Fits e) : v'.Fits e := by
  have hsid : ∀ c, (v.channels c).sid ≠ none → (v'.channels c).sid ≠ none := by
    intro c hc
    obtain ⟨i, hi⟩ := Option.ne_none_iff_exists'.mp hc
    rw [h.sid hi]
    simp
  cases e with
  | channelState c s => exact ⟨he.1.trans_le h.next, he.2.trans (h.states c)⟩
  | transportState s => exact le_trans he h.state
  | slotRef c previous => exact ⟨he.1.trans_le h.next, hsid c he.2.1, he.2.2⟩
  | slotDeref c =>
    refine ⟨he.1.trans_le h.next, hsid c he.2.1, fun i hi => ?_⟩
    rcases h.slots hi with hi' | hc
    · exact he.2.2 i hi'
    · exact he.2.1 hc
  | messageAccepted c => exact lt_of_lt_of_le he h.next
  | resetStreams c sid error => exact h.sid he
  | usrsctpClose => exact h.detached he
  | fclose => exact h.detached he
  | invalidSlot c => exact he
  | sendMessage | sendv | dcepMessage | derefUnset | resetNoMemory => trivial
  | handler hd =>
    cases hd with
    | closeHandler c =>
      exact ⟨he.1.trans_le h.next,
        le_antisymm (DataChannelState.le_closed _) (he.2 ▸ h.states c)⟩
    | openHandler c => exact lt_of_lt_of_le he h.next
    | stateChangeHandler s => exact le_trans he h.state
    | detachHandler => exact h.detached he
    | dataChannelHandler | bufferedAmountLowHandler | messageHandler | destroyedHandler => trivial

/-- New events are in order if each of them fits and may follow what there was. -/
theorem HistoryOk.append (h : HistoryOk v) (es : List Event) (hev : Evolves v v')
    (hes : v'.history = v.history ++ es) (hord : es.Pairwise Event.Precedes)
    (hprec : ∀ e ∈ v.history, ∀ e' ∈ es, e.Precedes e') (hfits : ∀ e ∈ es, v'.Fits e)
    (hheld : ∀ ⦃i c⦄, (v'.channels c).sid = some i →
      .slotRef c none ∈ v'.history ∧ (v'.slots i = some c ∨ .slotDeref c ∈ v'.history)) :
    HistoryOk v' where
  ordered := by
    rw [hes]
    exact List.pairwise_append.mpr ⟨h.ordered, hord, hprec⟩
  fits e he := by
    rw [hes] at he
    rcases List.mem_append.mp he with he | he
    · exact hev.fits (h.fits e he)
    · exact hfits e he
  held := hheld

theorem Evolves.log (v : View) (e : Event) : Evolves v (v.log e) :=
  ⟨le_refl _, fun _ => le_refl _, fun _ _ => id, fun _ _ => .inl, le_refl _, id⟩

/-- Recording an event that fits and may follow. -/
theorem HistoryOk.log (h : HistoryOk v) (hprec : ∀ e' ∈ v.history, e'.Precedes e)
    (hfits : v.Fits e) : HistoryOk (v.log e) := by
  refine h.append [e] (Evolves.log v e) rfl (List.pairwise_singleton _ _) ?_ ?_ ?_
  · intro e₁ he₁ e₂ he₂
    obtain rfl := List.mem_singleton.mp he₂
    exact hprec e₁ he₁
  · intro e₁ he₁
    obtain rfl := List.mem_singleton.mp he₁
    exact (Evolves.log v _).fits hfits
  · intro i c hc
    obtain ⟨href, hslot⟩ := h.held hc
    exact ⟨List.mem_append_left _ href, hslot.imp_right (List.mem_append_left _)⟩

theorem Event.Plain.fits (h : e.Plain) : v.Fits e := by
  cases e with
  | handler hd => cases hd <;> first | exact h.elim | trivial
  | _ => first | exact h.elim | trivial

theorem View.ResetDone.log (h : v.ResetDone c) (e : Event) : (v.log e).ResetDone c := by
  obtain ⟨sid, hsid⟩ := h
  exact ⟨sid, List.mem_append_left _ hsid⟩

/-- Recording an event. -/
theorem Inv.log (h : Inv L g v) (hprec : ∀ e' ∈ v.history, e'.Precedes e) (hfits : v.Fits e) :
    Inv L g (v.log e) where
  slots := { h.slots with reset := fun _ _ hi hc => (h.slots.reset hi hc).imp_right (·.log e) }
  history := h.history.log hprec hfits
  flags := { h.flags with }

/-- An event that contradicts the present has not happened. -/
theorem Inv.not_mem_of_not_fits (h : Inv L g v) (he : ¬ v.Fits e) : e ∉ v.history :=
  fun hm => he (h.history.fits e hm)

/-! ## Section 2: Changes that do not matter -/

/-- Between `v` and `v'` messages may have been sent or queued, but nothing else happened. -/
structure Quiet (v v' : View) : Prop where
  state : v'.state = v.state
  detached : v'.detached = v.detached
  socket : v'.socket = v.socket
  nSlots : v'.nSlots = v.nSlots
  slots : v'.slots = v.slots
  channels : v'.channels = v.channels
  next : v'.next = v.next
  dcepSid : v'.dcepSid = v.dcepSid
  low : (v.low = true → v.idle = true) → v'.low = true → v'.idle = true
  history : ∃ es, v'.history = v.history ++ es ∧ ∀ e ∈ es, e.Plain

theorem Quiet.refl (v : View) : Quiet v v :=
  ⟨rfl, rfl, rfl, rfl, rfl, rfl, rfl, rfl, id, [], by simp, by simp⟩

theorem Quiet.trans (h : Quiet v v') (h' : Quiet v' v'') : Quiet v v'' where
  state := h'.state.trans h.state
  detached := h'.detached.trans h.detached
  socket := h'.socket.trans h.socket
  nSlots := h'.nSlots.trans h.nSlots
  slots := h'.slots.trans h.slots
  channels := h'.channels.trans h.channels
  next := h'.next.trans h.next
  dcepSid := h'.dcepSid.trans h.dcepSid
  low hl := h'.low (h.low hl)
  history := by
    obtain ⟨es, hes, hplain⟩ := h.history
    obtain ⟨es', hes', hplain'⟩ := h'.history
    refine ⟨es ++ es', by rw [hes', hes, List.append_assoc], ?_⟩
    intro e he
    exact (List.mem_append.mp he).elim (hplain e) (hplain' e)

theorem Quiet.log (v : View) (he : e.Plain) : Quiet v (v.log e) :=
  ⟨rfl, rfl, rfl, rfl, rfl, rfl, rfl, rfl, id, [e], rfl, by simpa using he⟩

theorem Quiet.resetDone (h : Quiet v v') (hc : v.ResetDone c) : v'.ResetDone c := by
  obtain ⟨es, hes, -⟩ := h.history
  obtain ⟨sid, hsid⟩ := hc
  exact ⟨sid, by rw [hes]; exact List.mem_append_left _ hsid⟩

theorem Inv.quiet (h : Inv L g v) (hq : Quiet v v') : Inv L g v' where
  slots := by
    have hs := h.slots
    constructor
    · rw [hq.slots, hq.channels]; exact hs.sid_of_slot
    · rw [hq.slots, hq.channels]; exact hs.slot_of_sid
    · rw [hq.channels]; exact hs.connecting_of_unregistered
    · rw [hq.channels, hq.next]; exact hs.unregistered_of_next_le
    · rw [hq.slots, hq.nSlots, hq.state]; exact hs.slot_lt
    · rw [hq.slots, hq.channels]; exact hs.closed
    · rw [hq.slots, hq.channels, hq.state]; exact hs.connected
    · rw [hq.slots, hq.channels, hq.state]; exact hs.waiting
    · rw [hq.slots, hq.channels]
      exact fun _ _ hi hc => (hs.reset hi hc).imp_right hq.resetDone
  history := by
    obtain ⟨es, hes, hplain⟩ := hq.history
    have hev : Evolves v v' := by
      refine ⟨hq.next.ge, ?_, ?_, ?_, hq.state.ge, by rw [hq.detached]; exact id⟩
      · intro c; rw [hq.channels]
      · intro c i; rw [hq.channels]; exact id
      · intro i c; rw [hq.slots]; exact .inl
    refine h.history.append _ hev hes ?_ ?_ ?_ ?_
    · exact List.pairwise_of_forall_mem_list fun _ _ e' he' => (hplain e' he').precedes
    · exact fun e _ e' he' => (hplain e' he').precedes
    · exact fun e he => (hplain e he).fits
    · intro i c
      rw [hq.channels, hq.slots, hes]
      intro hc
      obtain ⟨href, hslot⟩ := h.history.held hc
      exact ⟨List.mem_append_left _ href, hslot.imp_right (List.mem_append_left _)⟩
  flags := by
    have hf := h.flags
    constructor
    · rw [hq.state, hq.detached]; exact hf.detached_of_closed
    · rw [hq.state, hq.detached]; exact hf.closed_of_detached
    · exact hq.low hf.idle_of_low
    · rw [hq.next]; exact hf.next_le
    · rw [hq.dcepSid, hq.nSlots]; exact hf.dcepSid_lt

theorem Rely.quiet (hq : Quiet v v') : Rely g v v' := by
  obtain ⟨es, hes, hplain⟩ := hq.history
  have hold : ∀ e ∈ v'.history, ¬ e.Plain → e ∈ v.history := by
    intro e he hp
    rw [hes] at he
    exact (List.mem_append.mp he).resolve_right fun h => hp (hplain e h)
  refine ⟨⟨?_, hq.next.ge, ?_, ?_, hq.state.ge, hq.nSlots, ?_, ?_⟩, ?_, ?_, ?_⟩
  · intro c; rw [hq.channels]
  · intro c i; rw [hq.channels]; exact id
  · intro i c; rw [hq.slots]; exact .inl
  · refine fun hd => ⟨by rw [hq.detached, hd], hq.state, hq.socket, fun e he hm => hold e hm ?_⟩
    rintro hp
    cases e with
    | handler hd => cases hd <;> first | exact hp.elim | exact he.elim
    | _ => first | exact hp.elim | exact he.elim
  · exact fun _ s hm => hold _ hm id
  · intro _ _ i c hi hc
    rw [hq.slots] at hi
    rw [hq.channels] at hc
    exact ⟨hi, hc⟩
  · intro c _ _ hc; rw [hq.channels]; exact .inl hc
  · exact fun _ => ⟨hq.state, hq.detached, hq.socket⟩

/-! ## Section 3: Channels -/

theorem Inv.le_of_mem (h : Inv L g v) {s : DataChannelState}
    (hm : .channelState c s ∈ v.history) : s ≤ (v.channels c).state :=
  (h.history.fits _ hm).2

theorem Evolves.setChannelState {s : DataChannelState} (hs : (v.channels c).state ≤ s) :
    Evolves v (v.setChannelState c s) := by
  refine ⟨le_refl _, ?_, by simp, fun _ _ => .inl, le_refl _, id⟩
  intro c'
  simp only [View.state_setChannelState]
  split
  · next hc => rw [hc]; exact hs
  · exact le_refl _

/-- Setting the state of a registered channel. -/
theorem Inv.setChannelState (h : Inv L g v) {s : DataChannelState} {i : Nat}
    (hlt : (v.channels c).state < s) (hslot : v.slots i = some c)
    (hopened : s = .opened → .connected ≤ v.state)
    (hclosing : s = .closing → (v.channels c).pendingReset = true ∨ v.ResetDone c)
    (hclosed : s = .closed → g.closing c) : Inv L g (v.setChannelState c s) where
  slots := by
    have hs := h.slots
    -- a state is only ever raised, so no channel goes back to connecting
    have hne : s ≠ .connecting := fun heq => by
      rw [heq] at hlt
      exact absurd hlt (by cases (v.channels c).state <;> decide)
    refine ⟨by simpa using hs.sid_of_slot, ?_, ?_, by simpa using hs.unregistered_of_next_le,
      hs.slot_lt, ?_, ?_, ?_, ?_⟩
    · -- a channel that has a stream keeps its slot until it is closed
      intro j c' hsid hc'
      simp only [View.sid_setChannelState, View.state_setChannelState] at hsid hc'
      refine hs.slot_of_sid hsid fun hclosed' => ?_
      split at hc'
      · next heq =>
        rw [heq] at hclosed'
        rw [hclosed'] at hlt
        exact absurd hlt (DataChannelState.le_closed s).not_gt
      · exact hc' hclosed'
    · intro c' hsid
      simp only [View.sid_setChannelState, View.state_setChannelState] at hsid ⊢
      split
      · next heq =>
        rw [heq, hs.sid_of_slot hslot] at hsid
        cases hsid
      · exact hs.connecting_of_unregistered hsid
    · intro j c' hj hc'
      simp only [View.slots_setChannelState, View.state_setChannelState] at hj hc'
      split at hc'
      · next heq => rw [heq]; exact hclosed hc'
      · exact hs.closed hj hc'
    · -- while the transport is connected no other channel starts to wait
      intro hst j c' hj hc'
      simp only [View.slots_setChannelState, View.state_setChannelState] at hj hc'
      split at hc'
      · exact absurd hc' hne
      · exact hs.connected hst hj hc'
    · -- before that no channel has been opened
      intro hst j c' hj hc'
      simp only [View.slots_setChannelState, View.state_setChannelState] at hj hc'
      split at hc'
      · exact absurd hst (hopened hc').not_gt
      · exact hs.waiting hst hj hc'
    · -- whoever is closing has a reset pending or requested
      intro j c' hj hc'
      simp only [View.slots_setChannelState, View.state_setChannelState,
        View.pendingReset_setChannelState] at hj hc' ⊢
      refine Or.imp_right (fun hr => View.ResetDone.log hr _) ?_
      split at hc'
      · next heq => rw [heq]; exact hclosing hc'
      · exact hs.reset hj hc'
  history := by
    have hlt' : c < v.next := h.slots.lt_next hslot
    refine h.history.append _ (Evolves.setChannelState hlt.le) rfl (List.pairwise_singleton _ _)
      ?_ ?_ ?_
    · -- states told before are lower than this one
      intro e he e' he'
      obtain rfl := List.mem_singleton.mp he'
      refine Event.precedes_channelState fun s' hs' => ?_
      subst hs'
      exact (h.le_of_mem he).trans_lt hlt
    · intro e he
      obtain rfl := List.mem_singleton.mp he
      exact ⟨hlt', by simp⟩
    · -- slots do not change, and nothing that was told of them is forgotten
      intro j c' hc'
      simp only [View.sid_setChannelState, View.slots_setChannelState,
        View.history_setChannelState] at hc' ⊢
      obtain ⟨href, hslot'⟩ := h.history.held hc'
      exact ⟨List.mem_append_left _ href, hslot'.imp_right (List.mem_append_left _)⟩
  flags := { h.flags with }

theorem RelyBut.setChannelState {s : DataChannelState} (hlt : (v.channels c).state < s) :
    RelyBut c g v (v.setChannelState c s) where
  states := (Evolves.setChannelState hlt.le).states
  next := le_refl _
  sid := by simp
  slots _ _ := .inl
  state := le_refl _
  nSlots := rfl
  detached hd := by
    refine ⟨hd, rfl, rfl, fun e he hm => ?_⟩
    simp only [View.history_setChannelState, List.mem_append, List.mem_singleton] at hm
    rcases hm with hm | rfl
    · exact hm
    · exact he.elim
  reports _ s hm := by simpa using hm
  connecting _ _ i c' hne hi hc' := by
    simp only [View.slots_setChannelState, View.state_setChannelState, if_neg hne] at hi hc'
    exact ⟨hi, hc'⟩
  registering c' hne _ _ hc' := by
    rw [View.state_setChannelState, if_neg hne]
    exact .inl hc'
  frozen _ := ⟨rfl, rfl, rfl⟩

theorem Rely.setChannelState {s : DataChannelState} (hlt : (v.channels c).state < s)
    (hreg : ¬ g.registering c) : Rely g v (v.setChannelState c s) where
  toForward := (RelyBut.setChannelState (g := g) hlt).toForward
  connecting hs hs' i c' hi hc' := by
    have hne : c' ≠ c := by
      rintro rfl
      rw [View.state_setChannelState, if_pos rfl] at hc'
      rw [hc'] at hlt
      exact absurd hlt (by cases (v.channels c').state <;> decide)
    exact (RelyBut.setChannelState (g := g) hlt).connecting hs hs' hne hi hc'
  registering c' hg := by
    have hne : c' ≠ c := by rintro rfl; exact hreg hg
    exact (RelyBut.setChannelState (g := g) hlt).registering hne hg
  frozen _ := ⟨rfl, rfl, rfl⟩

/-- Marking the reset as pending, or as done once it has been requested or does not matter. -/
theorem Inv.setPendingReset (h : Inv L g v) {pending : Bool}
    (hp : pending = false → ∀ i, v.slots i = some c → (v.channels c).state = .closing →
      v.ResetDone c) : Inv L g (v.setPendingReset c pending) where
  slots := by
    have hs := h.slots
    refine ⟨by simpa using hs.sid_of_slot, by simpa using hs.slot_of_sid,
      by simpa using hs.connecting_of_unregistered, by simpa using hs.unregistered_of_next_le,
      hs.slot_lt, by simpa using hs.closed, by simpa using hs.connected,
      by simpa using hs.waiting, ?_⟩
    intro i c' hi hc'
    simp only [View.slots_setPendingReset, View.state_setPendingReset,
      View.pendingReset_setPendingReset] at hi hc' ⊢
    split
    · next heq =>
      subst heq
      cases pending with
      | true => exact .inl rfl
      | false => exact .inr (hp rfl i hi hc')
    · exact hs.reset hi hc'
  history := by
    refine h.history.append [] ⟨le_refl _, by simp, by simp, fun _ _ => .inl, le_refl _, id⟩
      (by simp) .nil (by simp) (by simp) ?_
    simpa using h.history.held
  flags := { h.flags with }

theorem Rely.setPendingReset (c : ChannelId) (pending : Bool) :
    Rely g v (v.setPendingReset c pending) where
  states := by simp
  next := le_refl _
  sid := by simp
  slots _ _ := .inl
  state := le_refl _
  nSlots := rfl
  detached hd := ⟨hd, rfl, rfl, fun _ _ => id⟩
  reports _ _ := id
  connecting _ _ i c' hi hc' := ⟨hi, by simpa using hc'⟩
  registering _ _ _ hc' := .inl (by simpa using hc')
  frozen _ := ⟨rfl, rfl, rfl⟩

theorem Inv.fresh (h : Inv L g v) : (v.channels v.next).sid = none :=
  h.slots.unregistered_of_next_le (le_refl _)

theorem Inv.slot_ne_next (h : Inv L g v) {i : Nat} (hi : v.slots i = some c) : c ≠ v.next := by
  rintro rfl
  exact absurd (h.slots.lt_next hi) (lt_irrefl _)

theorem Evolves.allocate (h : Inv L g v) : Evolves v v.allocate := by
  have hc : ∀ c i, (v.channels c).sid = some i → c ≠ v.next := by
    rintro c i hsid rfl
    rw [h.fresh] at hsid
    cases hsid
  refine ⟨Nat.le_succ _, ?_, ?_, fun _ _ => .inl, le_refl _, id⟩
  · intro c
    by_cases hcn : c = v.next
    · subst hcn
      rw [View.channels_allocate_self, h.slots.connecting_of_unregistered h.fresh]
    · rw [View.channels_allocate_of_ne v c hcn]
  · intro c i hsid
    rw [View.channels_allocate_of_ne v c (hc c i hsid)]
    exact hsid

/-- Making a new channel object. -/
theorem Inv.allocate (h : Inv L g v) (hmax : (v.next + 1 : ℕ) ≤ L.maxChannels) :
    Inv L g v.allocate where
  slots := by
    have hs := h.slots
    -- a registered channel is an old one
    have hold : ∀ ⦃i c⦄, v.slots i = some c → v.allocate.channels c = v.channels c :=
      fun _ _ hi => View.channels_allocate_of_ne v _ (h.slot_ne_next hi)
    refine ⟨?_, ?_, ?_, ?_, hs.slot_lt, ?_, ?_, ?_, ?_⟩
    · intro i c hi
      rw [hold hi]
      exact hs.sid_of_slot hi
    · intro i c hsid hc
      by_cases hcn : c = v.next
      · subst hcn
        rw [View.channels_allocate_self] at hsid
        cases hsid
      · rw [View.channels_allocate_of_ne v c hcn] at hsid hc
        exact hs.slot_of_sid hsid hc
    · intro c hsid
      by_cases hcn : c = v.next
      · subst hcn
        rw [View.channels_allocate_self]
      · rw [View.channels_allocate_of_ne v c hcn] at hsid ⊢
        exact hs.connecting_of_unregistered hsid
    · intro c hc
      have hc' : v.next + 1 ≤ c := hc
      rw [View.channels_allocate_of_ne v c (Nat.ne_of_gt hc')]
      exact hs.unregistered_of_next_le (Nat.le_of_succ_le hc')
    · intro i c hi hc
      rw [hold hi] at hc
      exact hs.closed hi hc
    · intro hst i c hi hc
      rw [hold hi] at hc
      exact hs.connected hst hi hc
    · intro hst i c hi hc
      rw [hold hi] at hc
      exact hs.waiting hst hi hc
    · intro i c hi hc
      rw [hold hi] at hc ⊢
      exact hs.reset hi hc
  history := by
    refine h.history.append [] (Evolves.allocate h) (by simp) .nil (by simp) (by simp) ?_
    intro i c hsid
    by_cases hcn : c = v.next
    · subst hcn
      rw [View.channels_allocate_self] at hsid
      cases hsid
    · rw [View.channels_allocate_of_ne v c hcn] at hsid
      exact h.history.held hsid
  flags := { h.flags with next_le := hmax }

theorem Rely.allocate (h : Inv L g' v) : Rely g v v.allocate where
  states := (Evolves.allocate h).states
  next := Nat.le_succ _
  sid := (Evolves.allocate h).sid
  slots _ _ := .inl
  state := le_refl _
  nSlots := rfl
  detached hd := ⟨hd, rfl, rfl, fun _ _ => id⟩
  reports _ _ := id
  connecting _ _ i c hi hc := by
    rw [View.channels_allocate_of_ne v c (h.slot_ne_next hi)] at hc
    exact ⟨hi, hc⟩
  registering := by
    intro c _ hsid hc
    rw [View.channels_allocate_of_ne v c fun heq => hsid (heq ▸ h.fresh)]
    exact .inl hc
  frozen _ := ⟨rfl, rfl, rfl⟩

/-- Registering a new channel in a free slot. It waits to be opened afterwards. -/
theorem Inv.register (h : Inv L g v) {sid : Nat} {pending : Bool} (hnext : c < v.next)
    (hnew : (v.channels c).sid = none) (hfree : v.slots sid = none)
    (hsid : sid < v.nSlots ∨ ¬ L.sidsBelow ∧ .connected ≤ v.state)
    (hg : v.state = .connected → g.registering c) : Inv L g (v.register c sid pending) where
  slots := by
    have hs := h.slots
    have hconn := hs.connecting_of_unregistered hnew
    -- a channel without a stream is in no slot
    have hnone : ∀ j, v.slots j ≠ some c := fun j hj => by
      rw [hs.sid_of_slot hj] at hnew
      cases hnew
    refine ⟨?_, ?_, ?_, ?_, ?_, ?_, ?_, ?_, ?_⟩
    · intro j c' hj
      simp only [View.slots_register, View.sid_register] at hj ⊢
      split at hj
      · next heq => cases hj; simp [heq]
      · next hne =>
        have hne' : c' ≠ c := by rintro rfl; exact hnone j hj
        rw [if_neg hne']
        exact hs.sid_of_slot hj
    · -- the slot was free, so nobody has lost it
      intro j c' hj hc'
      simp only [View.slots_register, View.sid_register, View.state_register] at hj hc' ⊢
      split at hj
      · next heq => cases hj; simp [heq]
      · have hslot := hs.slot_of_sid hj hc'
        rw [if_neg fun heq => by rw [heq, hfree] at hslot; cases hslot]
        exact hslot
    · intro c' hc'
      simp only [View.sid_register, View.state_register] at hc' ⊢
      split at hc'
      · cases hc'
      · exact hs.connecting_of_unregistered hc'
    · intro c' hc'
      simp only [View.sid_register]
      have hne : c' ≠ c := by rintro rfl; exact absurd hc' (not_le.mpr hnext)
      rw [if_neg hne]
      exact hs.unregistered_of_next_le hc'
    · intro j c' hj
      simp only [View.slots_register] at hj
      split at hj
      · next heq => exact heq ▸ hsid
      · exact hs.slot_lt hj
    · -- the new channel is connecting, so there is nothing to show for closed ones
      intro j c' hj hc'
      simp only [View.slots_register, View.state_register] at hj hc'
      split at hj
      · cases hj
        rw [hconn] at hc'
        cases hc'
      · exact hs.closed hj hc'
    · -- it may wait on a connected transport, since it is being registered
      intro hst j c' hj hc'
      simp only [View.slots_register, View.state_register] at hj hc'
      split at hj
      · cases hj
        exact .inl (hg hst)
      · exact hs.connected hst hj hc'
    · intro hst j c' hj hc'
      simp only [View.slots_register, View.state_register] at hj hc'
      split at hj
      · cases hj
        rw [hconn] at hc'
        cases hc'
      · exact hs.waiting hst hj hc'
    · intro j c' hj hc'
      simp only [View.slots_register, View.state_register] at hj hc'
      split at hj
      · cases hj
        rw [hconn] at hc'
        cases hc'
      · rw [View.pendingReset_register_of_ne v c c' sid pending fun heq => hnone j (heq ▸ hj)]
        exact (hs.reset hj hc').imp_right (View.ResetDone.log · _)
  -- what is told is the reference that the slot takes
  history := by
    have hev : Evolves v (v.register c sid pending) := by
      refine ⟨le_refl _, by simp, ?_, ?_, le_refl _, id⟩
      · intro c' i hi
        have hne : c' ≠ c := by rintro rfl; rw [hnew] at hi; cases hi
        simpa [hne] using hi
      · intro j c' hj
        simp only [View.slots_register] at hj
        split at hj
        · cases hj
          exact .inr hnew
        · exact .inl hj
    refine h.history.append _ hev rfl (List.pairwise_singleton _ _) ?_ ?_ ?_
    · intro e he e' he'
      obtain rfl := List.mem_singleton.mp he'
      refine Event.precedes_of_ne trivial ?_ ?_
      · rintro rfl
        exact (h.history.fits _ he).2.1 hnew
      · -- no reset was requested for a channel without a stream
        rintro c' i error previous heq rfl
        obtain ⟨rfl, -⟩ := Event.slotRef.inj heq
        rw [show (v.channels c).sid = some i from h.history.fits _ he] at hnew
        cases hnew
    · intro e he
      obtain rfl := List.mem_singleton.mp he
      exact ⟨hnext, by simp, hfree⟩
    · -- the new channel is held by its slot, the others are held as before
      intro j c' hc'
      simp only [View.sid_register, View.slots_register, View.history_register] at hc' ⊢
      split at hc'
      · next heq =>
        cases hc'
        subst heq
        simp [hfree]
      · obtain ⟨href, hslot⟩ := h.history.held hc'
        refine ⟨List.mem_append_left _ href, ?_⟩
        rcases hslot with hslot | hderef
        · rw [if_neg fun heq => by rw [heq, hfree] at hslot; cases hslot]
          exact .inl hslot
        · exact .inr (List.mem_append_left _ hderef)
  flags := { h.flags with }

/-- A registration that is complete, or that has no consequences. -/
theorem Inv.registered (h : Inv L (g.withRegistering c) v)
    (hc : v.state = .connected → (v.channels c).state ≠ .connecting) : Inv L g v where
  slots := { h.slots with
    connected := fun hs i c' hi hc' => by
      refine (h.slots.connected hs hi hc').imp_left fun hreg => hreg.resolve_right ?_
      rintro rfl
      exact hc hs hc' }
  history := h.history
  flags := { h.flags with }

theorem RelyBut.register {sid : Nat} {pending : Bool} (hnew : (v.channels c).sid = none)
    (hfree : v.slots sid = none) : RelyBut c g v (v.register c sid pending) where
  states := by simp
  next := le_refl _
  sid c' i hi := by
    have hne : c' ≠ c := by rintro rfl; rw [hnew] at hi; cases hi
    simpa [hne] using hi
  slots j c' hj := by
    have hne : j ≠ sid := by rintro rfl; rw [hfree] at hj; cases hj
    refine .inl ?_
    simpa [hne] using hj
  state := le_refl _
  nSlots := rfl
  detached hd := by
    refine ⟨hd, rfl, rfl, fun e he hm => ?_⟩
    simp only [View.history_register, List.mem_append, List.mem_singleton] at hm
    rcases hm with hm | rfl
    · exact hm
    · exact he.elim
  reports _ s hm := by simpa using hm
  connecting _ _ i c' hne hi hc' := by
    simp only [View.slots_register, View.state_register] at hi hc'
    split at hi
    · exact absurd (Option.some.inj hi).symm hne
    · exact ⟨hi, hc'⟩
  registering c' _ _ _ hc' := .inl (by simpa using hc')
  frozen _ := ⟨rfl, rfl, rfl⟩

/-- Setting the state of a channel to closed, with or without a call of the close handler. -/
theorem Inv.closeHandler (h : Inv L g v) (hlt : (v.channels c).state ≠ .closed)
    (h' : Inv L g' (v.setChannelState c .closed)) :
    Inv L g' ((v.setChannelState c .closed).log (.handler (.closeHandler c))) := by
  have hold : .handler (.closeHandler c) ∉ v.history :=
    h.not_mem_of_not_fits fun hfits => hlt hfits.2
  refine h'.log ?_ ?_
  · intro e he
    refine Event.precedes_of_ne trivial ?_ (by simp)
    rintro rfl
    simp only [View.history_setChannelState, List.mem_append, List.mem_singleton] at he
    exact he.elim hold (by simp)
  · have hmem : Event.channelState c .closed ∈ (v.setChannelState c .closed).history := by simp
    exact ⟨(h'.history.fits _ hmem).1, by simp⟩

/-- Removing a closed channel from its slot. -/
theorem Inv.release (h : Inv L (g.withClosing c) v) {i : Nat} (hslot : v.slots i = some c)
    (hc : (v.channels c).state = .closed) : Inv L g (v.release i c) where
  slots := by
    have hs := h.slots
    -- slots that are still taken are other ones, with other channels
    have hold : ∀ ⦃j c'⦄, (v.release i c).slots j = some c' → v.slots j = some c' ∧ c' ≠ c := by
      intro j c' hj
      simp only [View.slots_release] at hj
      split at hj
      · cases hj
      · next hne =>
        refine ⟨hj, fun heq => hne ?_⟩
        subst heq
        have := hs.sid_of_slot hj
        rw [hs.sid_of_slot hslot] at this
        exact (Option.some.inj this).symm
    refine ⟨fun j c' hj => hs.sid_of_slot (hold hj).1, ?_, hs.connecting_of_unregistered,
      hs.unregistered_of_next_le, fun j c' hj => hs.slot_lt (hold hj).1, ?_,
      fun hst j c' hj => hs.connected hst (hold hj).1,
      fun hst j c' hj => hs.waiting hst (hold hj).1, ?_⟩
    · -- only a closed channel has lost its slot
      intro j c' hsid hc'
      have hj := hs.slot_of_sid hsid hc'
      have hne : j ≠ i := by
        rintro rfl
        rw [hslot] at hj
        obtain rfl := Option.some.inj hj
        exact hc' hc
      simpa [hne] using hj
    · intro j c' hj hc'
      exact (hs.closed (hold hj).1 hc').resolve_right (hold hj).2
    · intro j c' hj hc'
      exact (hs.reset (hold hj).1 hc').imp_right (View.ResetDone.log · _)
  history := by
    have hlt := h.slots.lt_next hslot
    have hsid := h.slots.sid_of_slot hslot
    -- the channel is in no slot any more, so its reference is given up only once
    have hgone : ∀ j, (v.release i c).slots j ≠ some c := by
      intro j hj
      simp only [View.slots_release] at hj
      split at hj
      · cases hj
      · next hne =>
        have := h.slots.sid_of_slot hj
        rw [hsid] at this
        exact hne (Option.some.inj this).symm
    have hev : Evolves v (v.release i c) := by
      refine ⟨le_refl _, fun _ => le_refl _, fun _ _ => id, ?_, le_refl _, id⟩
      intro j c' hj
      simp only [View.slots_release] at hj
      split at hj
      · cases hj
      · exact .inl hj
    refine h.history.append _ hev rfl (List.pairwise_singleton _ _) ?_ ?_ ?_
    · intro e he e' he'
      obtain rfl := List.mem_singleton.mp he'
      refine Event.precedes_of_ne trivial ?_ (by simp)
      rintro rfl
      exact (h.history.fits _ he).2.2 i hslot
    · intro e he
      obtain rfl := List.mem_singleton.mp he
      exact ⟨hlt, by simp [hsid], hgone⟩
    · intro j c' hc'
      simp only [View.channels_release, View.slots_release, View.history_release] at hc' ⊢
      obtain ⟨href, hheld⟩ := h.history.held hc'
      refine ⟨List.mem_append_left _ href, ?_⟩
      -- the channel of this slot has been released, the others are still held
      by_cases heq : j = i
      · subst heq
        rcases hheld with hheld | hheld
        · rw [hslot] at hheld
          obtain rfl := Option.some.inj hheld
          simp
        · exact .inr (List.mem_append_left _ hheld)
      · rw [if_neg heq]
        exact hheld.imp_right (List.mem_append_left _)
  flags := { h.flags with }

/-- After a channel was closed it can be removed from its slot. -/
theorem Forward.release (h : Forward v v') (hc : (v.channels c).state ≠ .closed)
    (hc' : (v'.channels c).state = .closed) {i : Nat} (hslot : v'.slots i = some c) :
    Forward v (v'.release i c) where
  states := h.states
  next := h.next
  sid := h.sid
  slots j c₁ hj := by
    simp only [View.slots_release, View.channels_release]
    rcases h.slots hj with hj' | hclosed
    · split
      · next heq =>
        subst heq
        rw [hslot] at hj'
        obtain rfl := Option.some.inj hj'
        exact .inr ⟨hc, hc'⟩
      · exact .inl hj'
    · exact .inr hclosed
  state := h.state
  nSlots := h.nSlots
  detached hd := by
    obtain ⟨h₁, h₂, h₃, h₄⟩ := h.detached hd
    refine ⟨h₁, h₂, h₃, fun e he hm => ?_⟩
    simp only [View.history_release, List.mem_append, List.mem_singleton] at hm
    rcases hm with hm | rfl
    · exact h₄ e he hm
    · exact he.elim
  reports hs s hm := h.reports hs s (by simpa using hm)

theorem Rely.release (h : Rely g v v') (hc : (v.channels c).state ≠ .closed)
    (hc' : (v'.channels c).state = .closed) {i : Nat} (hslot : v'.slots i = some c) :
    Rely g v (v'.release i c) where
  toForward := h.toForward.release hc hc' hslot
  connecting hs hs' j c₁ hj hc₁ := by
    simp only [View.slots_release, View.channels_release] at hj hc₁
    split at hj
    · cases hj
    · exact h.connecting hs hs' hj hc₁
  registering := h.registering
  frozen := h.frozen

/-! ## Section 4: The transport -/

theorem SlotsOk.enter (h : SlotsOk L g v) {s : TransportState} (hlt : v.state < s)
    (hconnected : s = .connected → g.opening) : SlotsOk L g (v.enter s) where
  sid_of_slot := h.sid_of_slot
  slot_of_sid := h.slot_of_sid
  connecting_of_unregistered := h.connecting_of_unregistered
  unregistered_of_next_le := h.unregistered_of_next_le
  slot_lt _ _ hi := (h.slot_lt hi).imp_right fun hb => ⟨hb.1, hb.2.trans hlt.le⟩
  closed := h.closed
  connected hs _ _ _ _ := .inr (hconnected hs)
  waiting hs := h.waiting (hlt.trans hs)
  reset _ _ hi hc := (h.reset hi hc).imp_right (View.ResetDone.log · _)

theorem HistoryOk.enter (h : HistoryOk v) {s : TransportState} (hlt : v.state < s) :
    HistoryOk (v.enter s) := by
  refine h.append _ ⟨le_refl _, fun _ => le_refl _, fun _ _ => id, fun _ _ => .inl, hlt.le, id⟩ rfl
    (List.pairwise_singleton _ _) ?_ ?_ ?_
  · intro e he e' he'
    obtain rfl := List.mem_singleton.mp he'
    refine Event.precedes_transportState fun s' hs' => ?_
    subst hs'
    exact lt_of_le_of_lt (h.fits _ he) hlt
  · intro e he
    obtain rfl := List.mem_singleton.mp he
    exact le_refl s
  · intro i c hc
    obtain ⟨href, hslot⟩ := h.held hc
    exact ⟨List.mem_append_left _ href, hslot.imp_right (List.mem_append_left _)⟩

/-- The transport moves on, but is not closed yet. -/
theorem Inv.enter (h : Inv L g v) {s : TransportState} (hlt : v.state < s) (hne : s ≠ .closed)
    (hconnected : s = .connected → g.opening) : Inv L g (v.enter s) where
  slots := h.slots.enter hlt hconnected
  history := h.history.enter hlt
  flags := { h.flags with
    detached_of_closed := fun hs => absurd hs hne
    closed_of_detached := fun hd => by
      rcases h.flags.closed_of_detached hd with hs | hg
      · rw [hs] at hlt
        exact absurd hlt (TransportState.le_closed s).not_gt
      · exact .inr hg }

/-- The transport is closed once it is detached. -/
theorem Inv.enter_closed (h : Inv L g.withDetaching v) (hne : v.state ≠ .closed)
    (hd : v.detached = true) : Inv L g (v.enter .closed) where
  slots := by
    have hlt := lt_of_le_of_ne (TransportState.le_closed v.state) hne
    have hs : SlotsOk L g v := { h.slots with }
    exact hs.enter hlt (fun heq => by cases heq)
  history := h.history.enter (lt_of_le_of_ne (TransportState.le_closed v.state) hne)
  flags := { h.flags with
    detached_of_closed := fun _ => hd
    closed_of_detached := fun _ => .inl rfl }

theorem Forward.enter (h : Forward v v') (hd : v.detached = false) {s : TransportState}
    (hlt : v'.state < s) : Forward v (v'.enter s) where
  states := h.states
  next := h.next
  sid := h.sid
  slots := h.slots
  state := h.state.trans hlt.le
  nSlots := h.nSlots
  detached hd' := by rw [hd] at hd'; cases hd'
  reports hs := absurd hs (h.state.trans_lt hlt).ne'

/-- Marking the transport as detached, while it will be closed. -/
theorem Inv.detach (h : Inv L g v) (hg : g.detaching) :
    Inv L g { v with detached := true } where
  slots := { h.slots with }
  history := by
    refine h.history.append [] ⟨le_refl _, fun _ => le_refl _, fun _ _ => id,
      fun _ _ => .inl, le_refl _, fun _ => rfl⟩ (by simp) .nil (by simp) (by simp) ?_
    exact h.history.held
  flags := { h.flags with
    detached_of_closed := fun _ => rfl
    closed_of_detached := fun _ => .inr hg }

theorem Forward.detach (h : Forward v v') (hd : v.detached = false) :
    Forward v { v' with detached := true } :=
  { h with detached := fun hd' => by rw [hd] at hd'; cases hd' }

/-- Recording that the transport lets go of something, for the first time. -/
theorem Inv.log_shutdown (h : Inv L g v) (he : e.IsShutdown) (hd : v.detached = true)
    (hnew : e ∉ v.history) : Inv L g (v.log e) := by
  refine h.log ?_ ?_
  · refine fun e' he' => Event.precedes_of_ne ?_ (fun heq => hnew (heq ▸ he')) ?_
    swap
    · rintro c sid error previous rfl
      exact he.elim
    cases e with
    | handler hd => cases hd <;> first | exact he.elim | trivial
    | _ => first | exact he.elim | trivial
  · cases e with
    | handler hd => cases hd <;> first | exact he.elim | exact hd
    | _ => first | exact he.elim | exact hd

theorem Forward.log_shutdown (h : Forward v v') (he : e.IsShutdown) (hd : v.detached = false) :
    Forward v (v'.log e) where
  states := h.states
  next := h.next
  sid := h.sid
  slots := h.slots
  state := h.state
  nSlots := h.nSlots
  detached hd' := by rw [hd] at hd'; cases hd'
  reports hs s hm := by
    simp only [View.history_log, List.mem_append, List.mem_singleton] at hm
    rcases hm with hm | rfl
    · exact h.reports hs s hm
    · exact he.elim

theorem Inv.closeSocket (h : Inv L g (v.log .usrsctpClose)) : Inv L g v.closeSocket where
  slots := { h.slots with }
  history := { h.history with }
  flags := { h.flags with }

theorem Forward.closeSocket (h : Forward v (v'.log .usrsctpClose)) (hd : v.detached = false) :
    Forward v v'.closeSocket :=
  { h with detached := fun hd' => by rw [hd] at hd'; cases hd' }

/-- Reporting a state that has not been reported before. -/
theorem Inv.report (h : Inv L g v) {s : TransportState} (hs : s ≤ v.state)
    (hnew : ∀ s', .handler (.stateChangeHandler s') ∈ v.history → s' < s) :
    Inv L g (v.log (.handler (.stateChangeHandler s))) := by
  refine h.log (fun e he => Event.precedes_stateChangeHandler fun s' hs' => hnew s' ?_) hs
  rw [← hs']
  exact he

theorem Forward.report (h : Forward v v') (hne : v'.state ≠ v.state) {s : TransportState} :
    Forward v (v'.log (.handler (.stateChangeHandler s))) where
  states := h.states
  next := h.next
  sid := h.sid
  slots := h.slots
  state := h.state
  nSlots := h.nSlots
  detached hd := absurd (h.detached hd).2.1 hne
  reports hs := absurd hs hne

/-! ## Section 5: Single events -/

/-- The open handler may be called while the channel is open. -/
theorem Inv.log_openHandler (h : Inv L g v) (hc : (v.channels c).state ≤ .opened)
    (hnext : c < v.next) : Inv L g (v.log (.handler (.openHandler c))) := by
  refine h.log (fun e he => Event.precedes_openHandler fun s hs => ?_) hnext
  subst hs
  exact ((h.le_of_mem he).trans hc).trans_lt (by decide)

/-- A message may be accepted while the channel is open. -/
theorem Inv.log_messageAccepted (h : Inv L g v) (hc : (v.channels c).state ≤ .opened)
    (hnext : c < v.next) : Inv L g (v.log (.messageAccepted c)) := by
  refine h.log (fun e he => Event.precedes_messageAccepted fun s hs => ?_) hnext
  subst hs
  exact ((h.le_of_mem he).trans hc).trans_lt (by decide)

theorem Inv.log_resetStreams (h : Inv L g v) {sid : Nat} {error : Option Failure}
    (hsid : (v.channels c).sid = some sid) : Inv L g (v.log (.resetStreams c sid error)) :=
  h.log (fun _ _ => Event.precedes_resetStreams) hsid

/-- Recording an event that neither shuts the transport down nor reports a state. -/
theorem Rely.log (hshut : ¬ e.IsShutdown) (hreport : ∀ s, e ≠ .handler (.stateChangeHandler s)) :
    Rely g v (v.log e) where
  states _ := le_refl _
  next := le_refl _
  sid _ _ := id
  slots _ _ := .inl
  state := le_refl _
  nSlots := rfl
  detached hd := by
    refine ⟨hd, rfl, rfl, fun e' he' hm => ?_⟩
    simp only [View.history_log, List.mem_append, List.mem_singleton] at hm
    rcases hm with hm | rfl
    · exact hm
    · exact absurd he' hshut
  reports _ s hm := by
    simp only [View.history_log, List.mem_append, List.mem_singleton] at hm
    exact hm.resolve_right fun heq => hreport s heq.symm
  connecting _ _ _ _ hi hc := ⟨hi, hc⟩
  registering _ _ _ hc := .inl hc
  frozen _ := ⟨rfl, rfl, rfl⟩

/-- Storing another stream id with the DCEP reassembly buffer. -/
theorem Inv.setDcepSid (h : Inv L g v) {sid : Nat} (hsid : L.sidsBelow → sid < v.nSlots) :
    Inv L g { v with dcepSid := sid } where
  slots := { h.slots with }
  history := { h.history with }
  flags := { h.flags with dcepSid_lt := hsid }

theorem Rely.setDcepSid {sid : Nat} : Rely g v { v with dcepSid := sid } :=
  { Rely.refl g v with }

/-- Marking the buffered amount as low when nothing waits. -/
theorem Inv.setLow (h : Inv L g v) (hidle : v.idle = true) :
    Inv L g { v with low := true } where
  slots := { h.slots with }
  history := { h.history with }
  flags := { h.flags with idle_of_low := fun _ => hidle }

theorem Rely.setLow : Rely g v { v with low := true } :=
  { Rely.refl g v with }

end RawrtcDataChannel
