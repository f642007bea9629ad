import RawrtcDataChannel.Lifecycle.Rules

/-!
# Slots that have been emptied

`close_data_channels` goes through the slots of the transport one by one. It closes each channel
it finds, which calls a handler of the application, and empties the slot. A slot it has left behind
must not be filled again: nobody would close the channel in it.

`Vacated` is what holds of the slots whenever control is with the application, in runs in which no
emptied slot is taken. Unlike the lifecycle invariant it says nothing about the order of events, so
handlers may also stop the transport.
-/

namespace RawrtcDataChannel

open Reentrant

/-! ## Section 1: Closing everything -/

/-- The calls on whose behalf `close_data_channels` runs. -/
def Call.ClosesAll : Call → Prop
  | .start _ | .stop | .destroy => True
  | .readEvent (.notification _ _ (.assocChange _)) => True
  | _ => False

/-- The suspended routine is about to close the transport. -/
def ClosesTransport (f : Call × Op) : Prop :=
  f.1.ClosesAll ∧ (f.2 = .handler .detachHandler ∨ ∃ c, f.2 = .handler (.closeHandler c))

/-- The suspended routine closes all channels and is beyond the slot `i`. -/
def Empties (v : View) (f : Call × Op) (i : Nat) : Prop :=
  f.2 = .handler .detachHandler ∨
  f.1.ClosesAll ∧ ∃ c j, f.2 = .handler (.closeHandler c) ∧ (v.channels c).sid = some j ∧ i < j

/-- The transport is closed, or somebody who is closing it has emptied the slot `i`. -/
def Emptied (fs : List (Call × Op)) (v : View) (i : Nat) : Prop :=
  v.state = .closed ∨ ∃ f ∈ fs, Empties v f i

/-- The transport is closed, or somebody is closing it. -/
def Shutting (fs : List (Call × Op)) (v : View) : Prop :=
  v.state = .closed ∨ ∃ f ∈ fs, ClosesTransport f

/-! ## Section 2: The invariant -/

/-- Emptied slots are empty and only closed channels are without a slot. The routine that is
    running has itself emptied the slots in `own`, and if `shut` holds it is about to close the
    transport. -/
structure Vacated (fs : List (Call × Op)) (own : Nat → Prop) (shut : Prop) (v : View) : Prop where
  empty : ∀ ⦃i⦄, own i ∨ Emptied fs v i → v.slots i = none
  sid_of_slot : ∀ ⦃i c⦄, v.slots i = some c → (v.channels c).sid = some i
  slot_of_sid : ∀ ⦃i c⦄, (v.channels c).sid = some i → (v.channels c).state ≠ .closed →
    v.slots i = some c
  unregistered_of_next_le : ∀ ⦃c⦄, v.next ≤ c → (v.channels c).sid = none
  slot_lt : ∀ ⦃i c⦄, v.slots i = some c → i < v.nSlots
  /-- A channel whose close handler is running is still in its slot, or the slot has been
      emptied by somebody else. -/
  closing : ∀ ⦃c⦄, (ongoing fs).closing c → ∃ i, (v.channels c).sid = some i ∧
    (v.channels c).state = .closed ∧ (v.slots i = some c ∨ own i ∨ Emptied fs v i)
  /-- A channel that is being announced is only closed with the transport. -/
  registering : ∀ ⦃c⦄, (ongoing fs).registering c → (v.channels c).sid ≠ none ∧
    ((v.channels c).state = .closed → shut ∨ Shutting fs v)

/-- The invariant where the running routine does not close the transport. -/
abbrev Settled (fs : List (Call × Op)) (v : View) : Prop :=
  Vacated fs (fun _ => False) False v

/-- On a closed transport there is no channel, and no channel that was registered is open. -/
theorem Vacated.of_closed {fs : List (Call × Op)} {own : Nat → Prop} {shut : Prop} {v : View}
    (h : Vacated fs own shut v) (hclosed : v.state = .closed) :
    (∀ i, v.slots i = none) ∧ ∀ c i, (v.channels c).sid = some i → (v.channels c).state = .closed := by
  have hempty : ∀ i, v.slots i = none := fun i => h.empty (.inr (.inl hclosed))
  refine ⟨hempty, ?_⟩
  intro c i hsid
  by_contra hopen
  have hslot := h.slot_of_sid hsid hopen
  rw [hempty i] at hslot
  cases hslot

/-! ## Section 3: Changes that do not matter -/

/-- Between `v` and `v'` the slots were left alone, and of the channels at most new ones changed. -/
structure CalmView (v v' : View) : Prop where
  slots : v'.slots = v.slots
  nSlots : v'.nSlots = v.nSlots
  closed : v'.state = .closed ↔ v.state = .closed
  next : v.next ≤ v'.next
  channels : ∀ c, (v'.channels c).sid = (v.channels c).sid ∧
      (v'.channels c).state = (v.channels c).state ∨
    v.next ≤ c ∧ c < v'.next ∧ (v'.channels c).sid = none ∧ (v'.channels c).state ≠ .closed

theorem CalmView.refl (v : View) : CalmView v v :=
  ⟨rfl, rfl, Iff.rfl, le_refl _, fun _ => .inl ⟨rfl, rfl⟩⟩

theorem CalmView.trans {v v' v'' : View} (h : CalmView v v') (h' : CalmView v' v'') :
    CalmView v v'' where
  slots := h'.slots.trans h.slots
  nSlots := h'.nSlots.trans h.nSlots
  closed := h'.closed.trans h.closed
  next := h.next.trans h'.next
  channels c := by
    rcases h'.channels c with ⟨hsid', hstate'⟩ | ⟨hle, hlt, hnew⟩
    · rcases h.channels c with ⟨hsid, hstate⟩ | ⟨hle, hlt, hsid, hstate⟩
      · exact .inl ⟨hsid'.trans hsid, hstate'.trans hstate⟩
      · exact .inr ⟨hle, hlt.trans_le h'.next, hsid'.trans hsid, hstate' ▸ hstate⟩
    · exact .inr ⟨h.next.trans hle, hlt, hnew⟩

/-- What the surroundings keep while a routine is suspended. -/
structure StableView (v v' : View) : Prop where
  sid : ∀ ⦃c i⦄, (v.channels c).sid = some i → (v'.channels c).sid = some i
  nSlots : v'.nSlots = v.nSlots

theorem StableView.refl (v : View) : StableView v v :=
  ⟨fun _ _ => id, rfl⟩

theorem StableView.trans {v v' v'' : View} (h : StableView v v') (h' : StableView v' v'') :
    StableView v v'' :=
  ⟨fun _ _ hsid => h'.sid (h.sid hsid), h'.nSlots.trans h.nSlots⟩

variable {fs : List (Call × Op)} {own own' : Nat → Prop} {shut : Prop} {v v' : View}
  {a : Call} {c : ChannelId} {i : Nat}

theorem CalmView.channel (h : CalmView v v') (hc : (v.channels c).sid = some i)
    (hnew : ∀ ⦃c⦄, v.next ≤ c → (v.channels c).sid = none) :
    (v'.channels c).sid = some i ∧ (v'.channels c).state = (v.channels c).state := by
  rcases h.channels c with ⟨hsid, hstate⟩ | ⟨hle, -⟩
  · exact ⟨hsid.trans hc, hstate⟩
  · rw [hnew hle] at hc
    cases hc

/-- A channel that was there before is as it was. -/
theorem CalmView.old (h : CalmView v v') (hc : c < v.next) :
    (v'.channels c).sid = (v.channels c).sid ∧ (v'.channels c).state = (v.channels c).state := by
  rcases h.channels c with hsame | ⟨hle, -⟩
  · exact hsame
  · exact absurd hc (Nat.not_lt.mpr hle)

theorem CalmView.sid_iff (h : CalmView v v')
    (hnew : ∀ ⦃c⦄, v.next ≤ c → (v.channels c).sid = none) :
    (v'.channels c).sid = some i ↔ (v.channels c).sid = some i := by
  constructor
  · intro hsid'
    rcases h.channels c with ⟨hsid, -⟩ | ⟨-, -, hnone, -⟩
    · exact hsid.symm.trans hsid'
    · rw [hnone] at hsid'
      cases hsid'
  · intro hsid
    exact (h.channel hsid hnew).1

theorem Vacated.emptied_iff (h : Vacated fs own shut v) (hcalm : CalmView v v') :
    Emptied fs v' i ↔ Emptied fs v i := by
  unfold Emptied Empties
  simp only [hcalm.closed, hcalm.sid_iff h.unregistered_of_next_le]

/-- Changes that do not matter. -/
theorem Vacated.calm (h : Vacated fs own shut v) (hcalm : CalmView v v') :
    Vacated fs own shut v' where
  empty i hi := by
    rw [hcalm.slots]
    exact h.empty (hi.imp_right (h.emptied_iff hcalm).mp)
  sid_of_slot i c hi := by
    rw [hcalm.slots] at hi
    exact (hcalm.channel (h.sid_of_slot hi) h.unregistered_of_next_le).1
  slot_of_sid i c hsid hstate := by
    have hsid' := (hcalm.sid_iff h.unregistered_of_next_le).mp hsid
    rw [(hcalm.channel hsid' h.unregistered_of_next_le).2] at hstate
    rw [hcalm.slots]
    exact h.slot_of_sid hsid' hstate
  unregistered_of_next_le c hc := by
    rcases hcalm.channels c with ⟨hsid, -⟩ | ⟨-, -, hnone, -⟩
    · exact hsid.trans (h.unregistered_of_next_le (hcalm.next.trans hc))
    · exact hnone
  slot_lt i c hi := by
    rw [hcalm.nSlots]
    rw [hcalm.slots] at hi
    exact h.slot_lt hi
  closing c hc := by
    obtain ⟨i, hsid, hstate, hslot⟩ := h.closing hc
    obtain ⟨hsid', hstate'⟩ := hcalm.channel hsid h.unregistered_of_next_le
    refine ⟨i, hsid', hstate'.trans hstate, ?_⟩
    rw [hcalm.slots, h.emptied_iff hcalm]
    exact hslot
  registering c hc := by
    obtain ⟨hsid, hshut⟩ := h.registering hc
    obtain ⟨i, hi⟩ := Option.ne_none_iff_exists'.mp hsid
    obtain ⟨hsid', hstate'⟩ := hcalm.channel hi h.unregistered_of_next_le
    have hshutting : Shutting fs v' ↔ Shutting fs v := by
      unfold Shutting
      rw [hcalm.closed]
    rw [hsid', hstate', hshutting]
    exact ⟨Option.some_ne_none i, hshut⟩

theorem Vacated.stable (h : Vacated fs own shut v) (hcalm : CalmView v v') : StableView v v' :=
  ⟨fun _ _ hsid => (hcalm.channel hsid h.unregistered_of_next_le).1, hcalm.nSlots⟩

/-! ## Section 4: Handing control over -/

theorem emptied_cons {f : Call × Op} :
    Emptied (f :: fs) v i ↔ Empties v f i ∨ Emptied fs v i := by
  simp only [Emptied, List.mem_cons, or_and_right, exists_or, exists_eq_left]
  exact or_left_comm

theorem shutting_cons {f : Call × Op} :
    Shutting (f :: fs) v ↔ ClosesTransport f ∨ Shutting fs v := by
  simp only [Shutting, List.mem_cons, or_and_right, exists_or, exists_eq_left]
  exact or_left_comm

theorem closing_cons {f : Call × Op} :
    (ongoing (f :: fs)).closing c ↔ f.2 = .handler (.closeHandler c) ∨ (ongoing fs).closing c := by
  constructor
  · rintro ⟨b, hb⟩
    rcases List.mem_cons.mp hb with rfl | hb
    · exact .inl rfl
    · exact .inr ⟨b, hb⟩
  · rintro (hf | ⟨b, hb⟩)
    · exact ⟨f.1, List.mem_cons.mpr (.inl (by rw [← hf]))⟩
    · exact ⟨b, List.mem_cons_of_mem _ hb⟩

theorem registering_cons {f : Call × Op} : (ongoing (f :: fs)).registering c ↔
    f.2 = .handler (.dataChannelHandler c) ∨ (ongoing fs).registering c := by
  constructor
  · rintro ⟨b, hb⟩
    rcases List.mem_cons.mp hb with rfl | hb
    · exact .inl rfl
    · exact .inr ⟨b, hb⟩
  · rintro (hf | ⟨b, hb⟩)
    · exact ⟨f.1, List.mem_cons.mpr (.inl (by rw [← hf]))⟩
    · exact ⟨b, List.mem_cons_of_mem _ hb⟩

/-- What is known to be empty may be counted among the slots that have been emptied. -/
theorem Vacated.weaken {shut' : Prop} (h : Vacated fs own shut v) (hown : ∀ i, own i → own' i)
    (hempty : ∀ i, own' i → v.slots i = none) (hshut : shut → shut') :
    Vacated fs own' shut' v where
  empty i hi := hi.elim (hempty i) fun hi => h.empty (.inr hi)
  sid_of_slot := h.sid_of_slot
  slot_of_sid := h.slot_of_sid
  unregistered_of_next_le := h.unregistered_of_next_le
  slot_lt := h.slot_lt
  closing c hc := by
    obtain ⟨i, hsid, hstate, hslot⟩ := h.closing hc
    exact ⟨i, hsid, hstate, hslot.imp_right fun hi => hi.imp_left (hown i)⟩
  registering c hc := (h.registering hc).imp_right fun hr hstate => (hr hstate).imp_left hshut

/-- What a routine has to establish before it hands control over as `f`. -/
theorem Vacated.push {f : Call × Op} (h : Vacated fs own shut v)
    (hown : ∀ i, own i → Empties v f i) (hempty : ∀ i, Empties v f i → v.slots i = none)
    (hshut : shut → ClosesTransport f)
    (hclosing : ∀ c, f.2 = .handler (.closeHandler c) →
      ∃ i, v.slots i = some c ∧ (v.channels c).state = .closed)
    (hregistering : ∀ c, f.2 = .handler (.dataChannelHandler c) →
      (v.channels c).sid ≠ none ∧ (v.channels c).state ≠ .closed) : Settled (f :: fs) v where
  empty i hi := by
    rcases hi with hi | hi
    · exact hi.elim
    · exact (emptied_cons.mp hi).elim (hempty i) fun hi => h.empty (.inr hi)
  sid_of_slot := h.sid_of_slot
  slot_of_sid := h.slot_of_sid
  unregistered_of_next_le := h.unregistered_of_next_le
  slot_lt := h.slot_lt
  closing c hc := by
    rcases closing_cons.mp hc with hf | hc
    · obtain ⟨i, hslot, hstate⟩ := hclosing c hf
      exact ⟨i, h.sid_of_slot hslot, hstate, .inl hslot⟩
    · obtain ⟨i, hsid, hstate, hslot⟩ := h.closing hc
      refine ⟨i, hsid, hstate, hslot.imp_right fun hi => .inr (emptied_cons.mpr ?_)⟩
      exact hi.imp_left (hown i)
  registering c hc := by
    rcases registering_cons.mp hc with hf | hc
    · obtain ⟨hsid, hopen⟩ := hregistering c hf
      exact ⟨hsid, fun hstate => absurd hstate hopen⟩
    · obtain ⟨hsid, hr⟩ := h.registering hc
      exact ⟨hsid, fun hstate => .inr (shutting_cons.mpr ((hr hstate).imp_left hshut))⟩

/-- What a routine knows when it goes on: its own part is no longer among the suspended ones. -/
theorem Vacated.pop {f : Call × Op} (h : Settled (f :: fs) v) :
    Vacated fs (Empties v f) (ClosesTransport f) v where
  empty i hi := h.empty (.inr (emptied_cons.mpr hi))
  sid_of_slot := h.sid_of_slot
  slot_of_sid := h.slot_of_sid
  unregistered_of_next_le := h.unregistered_of_next_le
  slot_lt := h.slot_lt
  closing c hc := by
    obtain ⟨i, hsid, hstate, hslot⟩ := h.closing (closing_cons.mpr (.inr hc))
    refine ⟨i, hsid, hstate, hslot.imp_right fun hi => ?_⟩
    exact emptied_cons.mp (hi.resolve_left id)
  registering c hc := by
    obtain ⟨hsid, hshut⟩ := h.registering (registering_cons.mpr (.inr hc))
    exact ⟨hsid, fun hstate => shutting_cons.mp ((hshut hstate).resolve_left id)⟩

theorem empties_closeHandler_iff (hsid : (v.channels c).sid = some i) {j : Nat} :
    Empties v (a, .handler (.closeHandler c)) j ↔ a.ClosesAll ∧ j < i := by
  constructor
  · rintro (heq | ⟨ha, c', k, heq, hsid', hj⟩)
    · cases heq
    · cases heq
      obtain rfl : i = k := Option.some.inj (hsid.symm.trans hsid')
      exact ⟨ha, hj⟩
  · rintro ⟨ha, hj⟩
    exact .inr ⟨ha, c, i, rfl, hsid, hj⟩

/-- A handler that is called for something else than closing. -/
def Handler.LeavesSlots : Handler → Prop
  | .closeHandler _ | .detachHandler => False
  | _ => True

theorem Handler.Ordinary.leavesSlots {h : Handler} (hord : h.Ordinary) : h.LeavesSlots := by
  cases h <;> first | exact hord | trivial

theorem Handler.LeavesSlots.not_empties {h : Handler} (hh : h.LeavesSlots) :
    ¬ Empties v (a, .handler h) i := by
  rintro (heq | ⟨-, c, j, heq, -⟩)
  · cases heq
    exact hh
  · cases heq
    exact hh

theorem Handler.LeavesSlots.not_closesTransport {h : Handler} (hh : h.LeavesSlots) :
    ¬ ClosesTransport (a, .handler h) := by
  rintro ⟨-, heq | ⟨c, heq⟩⟩
  · cases heq
    exact hh
  · cases heq
    exact hh

theorem Vacated.pop_leavesSlots {h : Handler} (hh : h.LeavesSlots)
    (hv : Settled ((a, .handler h) :: fs) v) : Settled fs v :=
  hv.pop.weaken (fun _ hi => hh.not_empties hi) (fun _ hi => hi.elim) hh.not_closesTransport

/-- An ordinary handler may be called at any time. -/
theorem Vacated.push_ordinary {h : Handler} (hord : h.Ordinary) (hv : Settled fs v) :
    Settled ((a, .handler h) :: fs) v := by
  apply hv.push
  · exact fun _ hi => hi.elim
  · exact fun _ hi => absurd hi hord.leavesSlots.not_empties
  · exact False.elim
  · rintro c heq
    cases heq
    exact hord.elim
  · rintro c heq
    cases heq
    exact hord.elim

/-! ## Section 5: Changes of slots and channels -/

theorem emptied_setChannelState {s : DataChannelState} :
    Emptied fs (v.setChannelState c s) i ↔ Emptied fs v i := by
  unfold Emptied Empties
  simp only [View.transportState_setChannelState, View.sid_setChannelState]

/-- A channel changes its state, and stays in its slot if it has one. A channel that is being
    announced may only be closed with the transport. -/
theorem Vacated.setChannelState (h : Vacated fs own shut v) {s : DataChannelState}
    (hopen : s ≠ .closed → (v.channels c).state ≠ .closed)
    (hreg : s = .closed → (ongoing fs).registering c → shut) :
    Vacated fs own shut (v.setChannelState c s) where
  empty j hj := h.empty (hj.imp_right emptied_setChannelState.mp)
  sid_of_slot j c' hj := by
    rw [View.sid_setChannelState]
    exact h.sid_of_slot hj
  slot_of_sid j c' hsid hstate := by
    rw [View.sid_setChannelState] at hsid
    rw [View.state_setChannelState] at hstate
    apply h.slot_of_sid hsid
    split at hstate
    · -- only a channel that is closed already could lose its slot
      next heq => exact heq ▸ hopen hstate
    · exact hstate
  unregistered_of_next_le c' hc' := by
    rw [View.sid_setChannelState]
    exact h.unregistered_of_next_le hc'
  slot_lt := h.slot_lt
  closing c' hc' := by
    obtain ⟨j, hsid, hstate, hj⟩ := h.closing hc'
    refine ⟨j, by rwa [View.sid_setChannelState], ?_, ?_⟩
    · rw [View.state_setChannelState]
      split
      · next heq =>
        by_contra hs
        exact hopen hs (heq ▸ hstate)
      · exact hstate
    · rw [emptied_setChannelState]
      exact hj
  registering c' hc' := by
    rw [View.sid_setChannelState, View.state_setChannelState]
    -- being closed while it is announced is only possible with the transport
    refine (h.registering hc').imp_right fun hshut hstate => ?_
    split at hstate
    · next heq => exact .inl (hreg hstate (heq ▸ hc'))
    · exact hshut hstate

/-- A closed channel is removed from its slot, by a routine that goes on to other slots or by one
    that is the only one to close this channel. -/
theorem Vacated.release (h : Vacated fs own shut v)
    (hslot : ∀ c', v.slots i = some c' → c' = c) (hclosed : (v.channels c).state = .closed)
    (hown : ∀ j, own j → own' j)
    (hown' : ∀ j, own' j → own j ∨ j = i) (halone : (ongoing fs).closing c → own' i) :
    Vacated fs own' shut (v.release i c) where
  empty j hj := by
    rw [View.slots_release]
    split
    · rfl
    · -- other slots were empty before
      next hne =>
      apply h.empty
      rcases hj with hj | hj
      · exact .inl ((hown' j hj).resolve_right hne)
      · exact .inr hj
  sid_of_slot j c' hj := by
    rw [View.slots_release] at hj
    split at hj
    · cases hj
    · exact h.sid_of_slot hj
  slot_of_sid j c' hsid' hstate := by
    have hslot' := h.slot_of_sid hsid' hstate
    rw [View.slots_release, if_neg]
    · exact hslot'
    · -- only the closed channel can be in the slot
      rintro rfl
      exact hstate (hslot c' hslot' ▸ hclosed)
  unregistered_of_next_le := h.unregistered_of_next_le
  slot_lt j c' hj := by
    rw [View.slots_release] at hj
    split at hj
    · cases hj
    · exact h.slot_lt hj
  closing c' hc' := by
    obtain ⟨j, hsid', hstate, hj⟩ := h.closing hc'
    refine ⟨j, hsid', hstate, ?_⟩
    rw [View.slots_release]
    -- who closes this channel counts its slot among the emptied ones now
    rcases hj with hj | hj | hj
    · split
      · next heq =>
        rw [heq] at hj ⊢
        exact .inr (.inl (halone (hslot c' hj ▸ hc')))
      · exact .inl hj
    · exact .inr (.inl (hown j hj))
    · exact .inr (.inr hj)
  registering := h.registering

/-- Nobody is closing a channel that has not been registered. -/
theorem Vacated.not_closing (h : Vacated fs own shut v) (hnew : (v.channels c).sid = none) :
    ¬ (ongoing fs).closing c := by
  intro hc
  obtain ⟨i, hsid, -⟩ := h.closing hc
  rw [hnew] at hsid
  cases hsid

theorem Vacated.emptied_register (h : Vacated fs own shut v) (hnew : (v.channels c).sid = none)
    {pending : Bool} {j : Nat} : Emptied fs (v.register c i pending) j ↔ Emptied fs v j := by
  have hempties : ∀ f ∈ fs, (Empties (v.register c i pending) f j ↔ Empties v f j) := by
    intro f hf
    unfold Empties
    have hsame : ∀ c', f.2 = .handler (.closeHandler c') →
        ((v.register c i pending).channels c').sid = (v.channels c').sid := by
      intro c' heq
      have hne : c' ≠ c := by
        rintro rfl
        exact h.not_closing hnew ⟨f.1, by rwa [← heq]⟩
      rw [View.sid_register, if_neg hne]
    refine or_congr_right (and_congr_right fun _ => exists_congr fun c' => exists_congr fun k => ?_)
    refine and_congr_right fun heq => ?_
    rw [hsame c' heq]
  unfold Emptied
  refine or_congr Iff.rfl (exists_congr fun f => and_congr_right fun hf => hempties f hf)

/-- A new channel is registered in a free slot that has not been emptied. -/
theorem Vacated.register (h : Vacated fs own shut v) (hfree : v.slots i = none)
    (hahead : ¬ (own i ∨ Emptied fs v i)) (hi : i < v.nSlots) (hnew : (v.channels c).sid = none)
    (hc : c < v.next) {pending : Bool} : Vacated fs own shut (v.register c i pending) where
  empty j hj := by
    rw [h.emptied_register hnew] at hj
    rw [View.slots_register, if_neg]
    · exact h.empty hj
    · -- the slot that is taken is none of the emptied ones
      rintro rfl
      exact hahead hj
  sid_of_slot j c' hj := by
    rw [View.slots_register] at hj
    rw [View.sid_register]
    split at hj
    · next heq =>
      rw [if_pos (Option.some.inj hj).symm, heq]
    · have hsid := h.sid_of_slot hj
      rw [if_neg]
      · exact hsid
      · rintro rfl
        rw [hnew] at hsid
        cases hsid
  -- the new channel gets its slot together with its stream id
  slot_of_sid j c' hsid hstate := by
    rw [View.sid_register] at hsid
    rw [View.state_register] at hstate
    rw [View.slots_register]
    split at hsid
    · next heq => rw [if_pos (Option.some.inj hsid).symm, heq]
    · have hslot := h.slot_of_sid hsid hstate
      rw [if_neg]
      · exact hslot
      · rintro rfl
        rw [hfree] at hslot
        cases hslot
  unregistered_of_next_le c' hc' := by
    -- channels without a stream id are neither closing nor the new one
    have hne : c' ≠ c := by
      rintro rfl
      exact absurd hc (Nat.not_lt.mpr hc')
    rw [View.sid_register, if_neg hne]
    exact h.unregistered_of_next_le hc'
  slot_lt j c' hj := by
    rw [View.slots_register] at hj
    split at hj
    · next heq => exact heq ▸ hi
    · exact h.slot_lt hj
  closing c' hc' := by
    obtain ⟨j, hsid, hstate, hj⟩ := h.closing hc'
    have hne : c' ≠ c := by
      rintro rfl
      exact h.not_closing hnew hc'
    refine ⟨j, ?_, ?_, ?_⟩
    · rwa [View.sid_register, if_neg hne]
    · rwa [View.state_register]
    · rw [h.emptied_register hnew, View.slots_register]
      refine hj.imp_left fun hslot => ?_
      rw [if_neg]
      · exact hslot
      · rintro rfl
        rw [hfree] at hslot
        cases hslot
  registering c' hc' := by
    rw [View.sid_register, View.state_register]
    refine (h.registering hc').imp_left fun hsid => ?_
    split
    · exact Option.some_ne_none i
    · exact hsid

/-- The transport is closed, when all slots are empty. -/
theorem Vacated.enter_closed (h : Vacated fs own shut v) (hempty : ∀ i, v.slots i = none) :
    Settled fs (v.enter .closed) where
  empty i _ := hempty i
  sid_of_slot := h.sid_of_slot
  slot_of_sid := h.slot_of_sid
  unregistered_of_next_le := h.unregistered_of_next_le
  slot_lt := h.slot_lt
  closing c hc := by
    obtain ⟨i, hsid, hstate, -⟩ := h.closing hc
    exact ⟨i, hsid, hstate, .inr (.inr (.inl rfl))⟩
  registering _ hc := (h.registering hc).imp_right fun _ _ => .inr (.inl rfl)

end RawrtcDataChannel
