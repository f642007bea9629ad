import RawrtcDataChannel.Closing.StreamResets

/-!
# Resets of all streams

A stream reset event whose list of ids is empty says that all streams have been reset. The loop over
the list then does nothing at all, so channels stay open whose streams have been reset by the peer.
The event has the effect it should have only if there is nothing to be done for any channel.
-/

namespace RawrtcDataChannel

open Reentrant

/-! ## Section 1: What should happen -/

/-- The ids of all streams that have a channel. -/
def Transport.registeredSids (t : Transport) : List Nat :=
  (List.range t.nChannels).filter fun i => (t.channels i).isSome

/-- The event that lists every registered stream. -/
def StreamResetEvent.ofAll (event : StreamResetEvent) (t : Transport) : StreamResetEvent :=
  { event with strresetStreamList := t.registeredSids }

/-- The event is a request to reset a stream. -/
def Event.isResetRequest : Event → Bool
  | .resetStreams _ _ _ => true
  | _ => false

/-- The registry, the states of the channels and the reset requests are the same. -/
structure SameEffect (t₁ t₂ : Transport) : Prop where
  channels : t₁.channels = t₂.channels
  states : ∀ c, (t₁.dataChannels c).state = (t₂.dataChannels c).state
  requests : t₁.history.filter Event.isResetRequest = t₂.history.filter Event.isResetRequest

/-- What an event leaves behind, in given surroundings. -/
def afterReset (world : (o : Op) → Transport → o.Reply × Transport) (event : StreamResetEvent)
    (t : Transport) : Transport :=
  (((handleStreamResetEvent event).run t).execIn world).2

/-- An event with an empty list reaches every channel, whatever the surroundings answer and
    whatever handlers do that are called. -/
structure ReachesAll (t : Transport) (event : StreamResetEvent) : Prop where
  sameEffect : event.strresetStreamList = [] →
    ∀ world, SameEffect (afterReset world event t) (afterReset world (event.ofAll t) t)
  /-- No channel stays open when the peer has reset all streams. -/
  noneOpen : event.strresetStreamList = [] → event.incomingSsn = true →
    ∀ world i c, i < t.nChannels → t.channels i = some c →
      ((afterReset world event t).dataChannels c).state ≠ .opened

/-- There is something to be done for a channel: it has not begun to close although the peer has
    reset its stream, or both of its streams have been reset by now. -/
def StreamResetEvent.Concerns (event : StreamResetEvent) (ch : DataChannel) : Prop :=
  event.incomingSsn = true ∧ ch.state ≠ .closing ∧ ch.state ≠ .closed ∨
    (ch.flags.incomingStreamReset = true ∨ event.incomingSsn = true) ∧
      (ch.flags.outgoingStreamReset = true ∨ event.outgoingSsn = true)

/-! ## Section 2: When nothing is to be done -/

section Unconcerned

variable {event : StreamResetEvent} {t t' t'' : Transport}

theorem SameEffect.refl (t : Transport) : SameEffect t t := ⟨rfl, fun _ => rfl, rfl⟩

theorem SameEffect.trans (h : SameEffect t t') (h' : SameEffect t' t'') : SameEffect t t'' :=
  ⟨h.channels.trans h'.channels, fun c => (h.states c).trans (h'.states c),
    h.requests.trans h'.requests⟩

/-- Only reset flags are set between `t` and `t'`, as the event says. -/
structure Flags (event : StreamResetEvent) (t t' : Transport) : Prop where
  sameEffect : SameEffect t t'
  concerns : ∀ c, event.Concerns (t'.dataChannels c) → event.Concerns (t.dataChannels c)
  nChannels : t'.nChannels = t.nChannels

theorem Flags.trans (h : Flags event t t') (h' : Flags event t' t'') : Flags event t t'' :=
  ⟨h.sameEffect.trans h'.sameEffect, fun c hc => h.concerns c (h'.concerns c hc),
    h'.nChannels.trans h.nChannels⟩

/-- A flag of a channel is set. -/
theorem flags_modifyChannel (t : Transport) (c : ChannelId) {f : DataChannel → DataChannel}
    (hstate : ∀ ch, (f ch).state = ch.state)
    (hconcerns : ∀ ch, event.Concerns (f ch) → event.Concerns ch) :
    Flags event t (t.modifyChannel c f) := by
  refine ⟨⟨rfl, fun c' => ?_, rfl⟩, fun c' h => ?_, rfl⟩
  · by_cases hc' : c' = c
    · subst hc'
      simp [Transport.modifyChannel, hstate]
    · simp [Transport.modifyChannel, hc']
  · by_cases hc' : c' = c
    · subst hc'
      apply hconcerns
      simpa [Transport.modifyChannel] using h
    · simpa [Transport.modifyChannel, hc'] using h

/-- Nothing is left to be done for a channel that the event does not concern. -/
theorem closeIfBothReset_of_not_both {c : ChannelId}
    (h : ¬ ((t.dataChannels c).flags.incomingStreamReset = true ∧
      (t.dataChannels c).flags.outgoingStreamReset = true)) :
    (closeIfBothReset c).run t = .ret () t := by
  simp only [closeIfBothReset, Routine.run_bind, Routine.run_get, Prog.bind, Routine.run_ite,
    if_neg h, Routine.run_pure]

/-- A channel that closes anyway only takes down that its incoming stream has been reset. -/
theorem handleIncomingStreamReset_of_not_open {c : ChannelId}
    (h : ¬ ((t.dataChannels c).state ≠ .closing ∧ (t.dataChannels c).state ≠ .closed)) :
    (handleIncomingStreamReset c).run t = .ret false (t.modifyChannel c fun ch =>
      { ch with flags := { ch.flags with incomingStreamReset := true } }) := by
  have hstate : ((t.modifyChannel c fun ch =>
      { ch with flags := { ch.flags with incomingStreamReset := true } }).dataChannels c).state =
      (t.dataChannels c).state := by
    simp [Transport.modifyChannel]
  simp only [handleIncomingStreamReset, Routine.run_bind, Routine.run_modify, Prog.bind,
    Routine.run_get, Routine.run_ite, hstate, if_neg h, Routine.run_pure]

/-- The loop body behind the part for incoming resets, if not both streams are reset then. -/
theorem outgoingReset_of_not_both (event : StreamResetEvent) (t : Transport) {c : ChannelId}
    (h : ¬ ((t.dataChannels c).flags.incomingStreamReset = true ∧
      ((t.dataChannels c).flags.outgoingStreamReset = true ∨ event.outgoingSsn = true))) :
    ∃ t', ((do
      if event.outgoingSsn then
        modify (·.modifyChannel c fun ch =>
          { ch with flags := { ch.flags with outgoingStreamReset := true } })
      closeIfBothReset c : M Unit).run t) = .ret () t' ∧ Flags event t t' := by
  let g : DataChannel → DataChannel := fun ch =>
    { ch with flags := { ch.flags with outgoingStreamReset := true } }
  by_cases hout : event.outgoingSsn = true
  · simp only [if_pos hout, Routine.run_bind, Routine.run_modify, Prog.bind]
    refine ⟨t.modifyChannel c g, ?_, flags_modifyChannel (f := g) t c (fun _ => rfl) ?_⟩
    · apply closeIfBothReset_of_not_both
      rintro ⟨hin, _⟩
      refine h ⟨?_, .inr hout⟩
      simpa [Transport.modifyChannel] using hin
    · intro ch h
      simpa [StreamResetEvent.Concerns, g, hout] using h
  · simp only [if_neg hout]
    exact ⟨t, closeIfBothReset_of_not_both fun hboth => h ⟨hboth.1, .inl hboth.2⟩,
      .refl t, fun _ h => h, rfl⟩

/-- The loop body, for a channel that the event does not concern. -/
theorem handleStreamReset_of_not_concerns {i : Nat} (hlt : i < t.nChannels)
    (hi : ∀ c, t.channels i = some c → ¬ event.Concerns (t.dataChannels c)) :
    ∃ t', (handleStreamReset event i).run t = .ret () t' ∧ Flags event t t' := by
  simp only [handleStreamReset, Routine.run_bind, Routine.run_get, Prog.bind, Routine.run_ite,
    if_neg (not_le.mpr hlt)]
  cases hslot : t.channels i with
  | none => exact ⟨t, rfl, .refl t, fun _ h => h, rfl⟩
  | some c =>
    obtain ⟨hopen, hboth⟩ := not_or.mp (hi c hslot)
    let f : DataChannel → DataChannel := fun ch =>
      { ch with flags := { ch.flags with incomingStreamReset := true } }
    by_cases hin : event.incomingSsn = true
    · -- the flag is set, but there is nothing to close
      have hflags : Flags event t (t.modifyChannel c f) := by
        refine flags_modifyChannel (f := f) t c (fun _ => rfl) fun ch h => ?_
        simpa [StreamResetEvent.Concerns, f, hin] using h
      simp only [if_pos hin, Routine.run_bind]
      rw [handleIncomingStreamReset_of_not_open fun h => hopen ⟨hin, h⟩]
      obtain ⟨t', hrun, hflags'⟩ := outgoingReset_of_not_both event (t.modifyChannel c f)
        (c := c) (by
          rintro ⟨_, hout⟩
          refine hboth ⟨.inr hin, ?_⟩
          simpa [Transport.modifyChannel, f] using hout)
      exact ⟨t', hrun, hflags.trans hflags'⟩
    · simp only [if_neg hin]
      exact outgoingReset_of_not_both event t fun h => hboth ⟨.inl h.1, h.2⟩

/-- The whole loop, if the event concerns no channel. -/
theorem handleStreamResets_of_not_concerns (event : StreamResetEvent) {sids : List Nat}
    (hsids : ∀ i ∈ sids, i < t.nChannels)
    (hnone : ∀ i c, i < t.nChannels → t.channels i = some c →
      ¬ event.Concerns (t.dataChannels c)) :
    ∃ t', (handleStreamResets event sids).run t = .ret () t' ∧ Flags event t t' := by
  induction sids generalizing t with
  | nil => exact ⟨t, rfl, .refl t, fun _ h => h, rfl⟩
  | cons sid sids ih =>
    have hsid : sid < t.nChannels := hsids sid List.mem_cons_self
    obtain ⟨t₁, hrun, hflags⟩ := handleStreamReset_of_not_concerns hsid (hnone sid · hsid)
    -- the event does not come to concern a channel on the way
    have hsids₁ : ∀ i ∈ sids, i < t₁.nChannels := by
      intro i hi
      rw [hflags.nChannels]
      exact hsids i (List.mem_cons_of_mem _ hi)
    have hnone₁ : ∀ i c, i < t₁.nChannels → t₁.channels i = some c →
        ¬ event.Concerns (t₁.dataChannels c) := by
      intro i c hlt hi h
      rw [hflags.nChannels] at hlt
      rw [← hflags.sameEffect.channels] at hi
      exact hnone i c hlt hi (hflags.concerns c h)
    obtain ⟨t', hrun', hflags'⟩ := ih hsids₁ hnone₁
    refine ⟨t', ?_, hflags.trans hflags'⟩
    rw [handleStreamResets, Routine.run_bind, hrun]
    exact hrun'

theorem mem_registeredSids {i : Nat} :
    i ∈ t.registeredSids ↔ i < t.nChannels ∧ ∃ c, t.channels i = some c := by
  simp [Transport.registeredSids, Option.isSome_iff_exists]

/-- An empty list is not iterated over. -/
theorem afterReset_of_nil (hlist : event.strresetStreamList = [])
    (world : (o : Op) → Transport → o.Reply × Transport) : afterReset world event t = t := by
  have hrun : (handleStreamResets event event.strresetStreamList).run t = .ret () t := by
    rw [hlist]
    rfl
  unfold afterReset handleStreamResetEvent
  rw [Routine.run_ite, hrun, Routine.run_pure, ite_self]
  rfl

/-- Nothing is missed if there is nothing to be done. -/
theorem reachesAll_of_not_concerns (hheard : event.denied = false ∧ event.failed = false)
    (hnone : ∀ i c, i < t.nChannels → t.channels i = some c →
      ¬ event.Concerns (t.dataChannels c)) : ReachesAll t event where
  sameEffect hlist world := by
    obtain ⟨t', hrun, hflags⟩ := handleStreamResets_of_not_concerns (event.ofAll t)
      (fun i (hi : i ∈ t.registeredSids) => (mem_registeredSids.mp hi).1) hnone
    have hafter : afterReset world (event.ofAll t) t = t' := by
      unfold afterReset handleStreamResetEvent
      rw [if_neg (by simp [StreamResetEvent.ofAll, hheard])]
      show (Prog.execIn world ((handleStreamResets (event.ofAll t) t.registeredSids).run t)).2 = t'
      rw [hrun]
      rfl
    rw [afterReset_of_nil hlist, hafter]
    exact hflags.sameEffect
  noneOpen hlist hin world i c hlt hi hopened := by
    rw [afterReset_of_nil hlist] at hopened
    refine hnone i c hlt hi (.inl ⟨hin, ?_⟩)
    rw [hopened]
    exact ⟨nofun, nofun⟩

end Unconcerned

/-! ## Section 3: When something is to be done -/

section Concerned

variable {answers : (o : Op) → Transport → o.Reply → Prop} {event : StreamResetEvent}
  {t : Transport} {i : Nat} {c : ChannelId}

/-- A reset that concerns a channel closes it or begins to. -/
theorem ResetOf.reached {t' : Transport} (h : ResetOf event i c t t')
    (hi : t.channels i = some c) (hconcerns : event.Concerns (t.dataChannels c)) :
    t'.channels i ≠ some c ∨ (t'.dataChannels c).state ≠ (t.dataChannels c).state := by
  obtain ⟨outcome, hprogress⟩ := h.progress
  have hregistered : (t.resetProgress i c).registered = true := decide_eq_true hi
  rcases ResetProgress.step_cases hregistered event outcome with hdone | hwaits
  · left
    rw [← hprogress] at hdone
    exact of_decide_eq_false hdone.registered
  · rw [← hprogress] at hwaits
    rcases hconcerns with ⟨hin, hopen⟩ | ⟨hin, hout⟩
    · -- it has begun to close
      right
      have hisOpen : (t.resetProgress i c).isOpen = true := decide_eq_true hopen
      have hstate : (t'.dataChannels c).state = .closing := by
        have h := hwaits.state
        rwa [if_pos (by simp [hin, hisOpen])] at h
      rw [hstate]
      exact hopen.1.symm
    · -- a channel is not left with both of its streams reset
      refine absurd ⟨?_, ?_⟩ hwaits.notBoth
      · rw [hwaits.incoming, Bool.or_eq_true]
        exact hin
      · rw [hwaits.outgoing, Bool.or_eq_true]
        exact hout

/-- The loop over a list with the id of a channel that is concerned. -/
theorem handleStreamResets_reached {sids : List Nat} (hmem : i ∈ sids) (hnodup : sids.Nodup)
    (hknown : t.SlotsKnown) (hlt : i < t.nChannels) (hi : t.channels i = some c)
    (hconcerns : event.Concerns (t.dataChannels c)) :
    ((handleStreamResets event sids).run t).Always answers fun _ t' =>
      t'.channels i ≠ some c ∨ (t'.dataChannels c).state ≠ (t.dataChannels c).state := by
  induction sids generalizing t with
  | nil => cases hmem
  | cons sid sids ih =>
    rw [handleStreamResets, Routine.run_bind, Prog.always_bind]
    apply Prog.Always.mono (handleStreamReset_always hknown event sid)
    intro _ t₁ hfirst
    by_cases hsid : sid = i
    · subst hsid
      rcases hfirst with ⟨hle | hnone, -⟩ | ⟨-, c', hc', hreset⟩
      · exact absurd hlt (not_lt.mpr hle)
      · cases hnone.symm.trans hi
      obtain rfl : c' = c := Option.some.inj (hc'.symm.trans hi)
      -- the rest of the list leaves the channel as it is
      have hknown₁ := (hreset.resets hknown hi).known
      apply Prog.Always.mono (handleStreamResets_always event sids hknown₁)
      intro _ t' hrest
      obtain ⟨hslot, hchannel⟩ := hrest.unlisted sid (List.nodup_cons.mp hnodup).1
      rw [hslot]
      by_cases hi₁ : t₁.channels sid = some c'
      · rw [hchannel c' hi₁]
        exact hreset.reached hi hconcerns
      · exact .inl hi₁
    · have hmem' : i ∈ sids := (List.mem_cons.mp hmem).resolve_left (Ne.symm hsid)
      have hnodup' := (List.nodup_cons.mp hnodup).2
      rcases hfirst with ⟨-, rfl⟩ | ⟨-, c', hc', hreset⟩
      · exact ih hmem' hnodup' hknown hlt hi hconcerns
      · -- another channel is reset first
        have hne : c ≠ c' := by
          rintro rfl
          exact hsid (hknown.unique hc' hi)
        have hsame : t₁.dataChannels c = t.dataChannels c := hreset.touches.others c hne
        rw [← hsame] at hconcerns ⊢
        apply ih hmem' hnodup' (hreset.resets hknown hc').known _ _ hconcerns
        · rwa [hreset.touches.nChannels]
        · rwa [hreset.touches.slots i (Ne.symm hsid)]

/-- A channel that is concerned is missed. -/
theorem not_reachesAll_of_concerns (hheard : event.denied = false ∧ event.failed = false)
    (hlist : event.strresetStreamList = []) (hknown : t.SlotsKnown) (hlt : i < t.nChannels)
    (hi : t.channels i = some c) (hconcerns : event.Concerns (t.dataChannels c)) :
    ¬ ReachesAll t event := by
  intro h
  -- everything succeeds, and nobody interferes
  let silent : (o : Op) → Transport → o.Reply × Transport := fun o s => (obligingOracle o s, s)
  have heffect := h.sameEffect hlist silent
  rw [afterReset_of_nil hlist] at heffect
  have hnodup : t.registeredSids.Nodup := List.nodup_range.filter _
  have halways : ((handleStreamResets (event.ofAll t) t.registeredSids).run t).Always
      (fun _ _ _ => True) fun _ t' =>
        t'.channels i ≠ some c ∨ (t'.dataChannels c).state ≠ (t.dataChannels c).state :=
    handleStreamResets_reached (mem_registeredSids.mpr ⟨hlt, c, hi⟩) hnodup hknown hlt hi hconcerns
  -- the event that lists all streams does something for this channel
  have hreached := Prog.always_iff.mp halways _ _
    (Prog.outcome_exec obligingOracle (fun _ _ => trivial) _)
  have hafter : afterReset silent (event.ofAll t) t =
      (((handleStreamResets (event.ofAll t) t.registeredSids).run t).exec obligingOracle).2 := by
    unfold afterReset handleStreamResetEvent
    rw [if_neg (by simp [StreamResetEvent.ofAll, hheard]), Prog.execIn_eq_exec]
    rfl
  -- the event without a list would have to do the same, but it does nothing
  rw [← hafter, ← heffect.channels, ← heffect.states] at hreached
  rcases hreached with hslot | hstate
  · exact hslot hi
  · exact hstate rfl

end Concerned

/-! ## Section 4: All streams -/

/-- **A reset of all streams** reaches every channel if the event lists streams, or if there is
    nothing to be done for any channel. -/
theorem reachesAll_iff {t : Transport} {event : StreamResetEvent} (hknown : t.SlotsKnown)
    (hheard : event.denied = false ∧ event.failed = false) :
    ReachesAll t event ↔ event.strresetStreamList ≠ [] ∨
      ∀ i c, i < t.nChannels → t.channels i = some c → ¬ event.Concerns (t.dataChannels c) := by
  constructor
  · intro h
    by_contra hnot
    obtain ⟨hlist, hsome⟩ := not_or.mp hnot
    push Not at hlist hsome
    obtain ⟨i, c, hlt, hi, hconcerns⟩ := hsome
    exact not_reachesAll_of_concerns hheard hlist hknown hlt hi hconcerns h
  · rintro (hlist | hnone)
    · exact ⟨fun h => absurd h hlist, fun h => absurd h hlist⟩
    · exact reachesAll_of_not_concerns hheard hnone

/-- A transport whose only channel has begun to close. -/
def Transport.withClosingChannel : Transport :=
  Transport.withOpenChannel.modifyChannel 0 ({ · with state := .closing })

theorem Transport.slotsKnown_withClosingChannel : Transport.withClosingChannel.SlotsKnown := by
  intro i c hi
  by_cases h : i = 0
  · subst h
    obtain rfl : 0 = c := Option.some.inj hi
    exact ⟨{}, rfl, rfl⟩
  · cases (Function.update_of_ne h _ _ :
      Transport.withClosingChannel.channels i = none).symm.trans hi

/-- The peer has reset all streams, but the only channel is closing anyway. -/
theorem reachesAll_iff_withClosingChannel :
    ReachesAll Transport.withClosingChannel { incomingSsn := true, strresetStreamList := [] } := by
  refine (reachesAll_iff Transport.slotsKnown_withClosingChannel ⟨rfl, rfl⟩).mpr (.inr ?_)
  intro i c _ hi
  have hslot : i = 0 := by
    by_contra h
    cases (Function.update_of_ne h _ _ :
      Transport.withClosingChannel.channels i = none).symm.trans hi
  subst hslot
  obtain rfl : 0 = c := Option.some.inj hi
  rintro (⟨-, hclosing, -⟩ | ⟨-, hreset | hreset⟩)
  · exact hclosing rfl
  · exact absurd hreset (by decide)
  · exact absurd hreset (by decide)

/-- The channel stays open. -/
theorem not_reachesAll_withOpenChannel :
    ¬ ReachesAll Transport.withOpenChannel { incomingSsn := true, strresetStreamList := [] } := by
  intro h
  refine h.noneOpen rfl rfl (fun o s => (obligingOracle o s, s)) 0 0 ?_ rfl rfl
  decide

end RawrtcDataChannel
