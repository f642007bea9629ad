import RawrtcDataChannel.Lifecycle.View

/-!
# The lifecycle invariant

`Inv` is what holds of a view whenever control is in the hands of the surroundings, and `Rely` is
what a suspended routine may expect of everything that happens before it goes on. The second half
of the module shows for each change of a view when it keeps the invariant. The changes are the
ones the code makes; what it has to establish before each of them are the hypotheses here.
-/

namespace RawrtcDataChannel

open Reentrant

/-! ## Section 1: What is in progress -/

/-- What suspended routines have started and will complete. -/
structure Ongoing where
  /-- The channel is closed and will be removed from its slot. -/
  closing : ChannelId → Prop
  /-- The channel is registered and will be opened if the transport is connected. -/
  registering : ChannelId → Prop
  /-- All waiting channels will be opened. -/
  opening : Prop
  /-- The transport is detached and will be closed. -/
  detaching : Prop
  /-- Somebody relies on the transport not being stopped meanwhile. -/
  frozen : Prop

namespace Ongoing

/-- Nothing is in progress. -/
def nothing : Ongoing := ⟨fun _ => False, fun _ => False, False, False, False⟩

/-- What `g` says to be in progress is in progress in `g'`. -/
structure Le (g g' : Ongoing) : Prop where
  closing : ∀ c, g.closing c → g'.closing c
  registering : ∀ c, g.registering c → g'.registering c
  opening : g.opening → g'.opening
  detaching : g.detaching → g'.detaching

/-- The channel `c` is being closed, too. -/
def withClosing (g : Ongoing) (c : ChannelId) : Ongoing :=
  { g with closing := fun c' => g.closing c' ∨ c' = c }

/-- The channel `c` is being registered, too. -/
def withRegistering (g : Ongoing) (c : ChannelId) : Ongoing :=
  { g with registering := fun c' => g.registering c' ∨ c' = c }

/-- The transport is being detached, too. -/
def withDetaching (g : Ongoing) : Ongoing :=
  { g with detaching := True }

theorem le_withClosing (g : Ongoing) (c : ChannelId) : g.Le (g.withClosing c) :=
  ⟨fun _ => .inl, fun _ => id, id, id⟩

theorem le_withRegistering (g : Ongoing) (c : ChannelId) : g.Le (g.withRegistering c) :=
  ⟨fun _ => id, fun _ => .inl, id, id⟩

theorem le_withDetaching (g : Ongoing) : g.Le g.withDetaching :=
  ⟨fun _ => id, fun _ => id, id, fun _ => trivial⟩

end Ongoing

/-- The call reports that the association is up, which opens all waiting channels. -/
def Call.Opens (a : Call) : Prop :=
  ∃ snLength end_, a = .readEvent (.notification snLength end_ (.assocChange .commUp))

/-- A suspended routine that goes on as if the transport had not been stopped. -/
def Freezes (f : Call × Op) : Prop :=
  (∃ c, f.2 = .handler (.closeHandler c)) ∨
  ((∃ n, f.1 = .start n) ∧ f.2 = .handler (.stateChangeHandler .connecting)) ∨
  (f.1.Opens ∧ ∃ c, f.2 = .handler (.openHandler c))

/-- What the suspended routines have in progress. -/
def ongoing (fs : List (Call × Op)) : Ongoing where
  closing c := ∃ a, (a, .handler (.closeHandler c)) ∈ fs
  registering c := ∃ a, (a, .handler (.dataChannelHandler c)) ∈ fs
  opening := ∃ f ∈ fs, f.1.Opens
  detaching := ∃ a, (a, .handler .detachHandler) ∈ fs
  frozen := ∃ f ∈ fs, Freezes f

/-- What is in progress while the call `a` runs on top of the suspended routines. -/
def here (a : Call) (fs : List (Call × Op)) : Ongoing :=
  { ongoing fs with opening := (ongoing fs).opening ∨ a.Opens }

/-! ## Section 2: The invariant -/

/-- Assumptions about the surroundings that some results make. -/
structure Limits where
  /-- No more channel objects than this are ever made. -/
  maxChannels : ℕ∞ := ⊤
  /-- The stream ids of incoming data are below the number of slots. -/
  sidsBelow : Prop := False

/-- The slots, the states of the channels and the state of the transport fit together. -/
structure SlotsOk (L : Limits) (g : Ongoing) (v : View) : Prop where
  sid_of_slot : ∀ ⦃i c⦄, v.slots i = some c → (v.channels c).sid = some i
  slot_of_sid : ∀ ⦃i c⦄, (v.channels c).sid = some i → (v.channels c).state ≠ .closed →
    v.slots i = some c
  connecting_of_unregistered : ∀ ⦃c⦄, (v.channels c).sid = none →
    (v.channels c).state = .connecting
  unregistered_of_next_le : ∀ ⦃c⦄, v.next ≤ c → (v.channels c).sid = none
  slot_lt : ∀ ⦃i c⦄, v.slots i = some c → i < v.nSlots ∨ ¬ L.sidsBelow ∧ .connected ≤ v.state
  closed : ∀ ⦃i c⦄, v.slots i = some c → (v.channels c).state = .closed → g.closing c
  connected : v.state = .connected → ∀ ⦃i c⦄, v.slots i = some c →
    (v.channels c).state = .connecting → g.registering c ∨ g.opening
  waiting : v.state < .connected → ∀ ⦃i c⦄, v.slots i = some c → (v.channels c).state ≠ .opened
  reset : ∀ ⦃i c⦄, v.slots i = some c → (v.channels c).state = .closing →
    (v.channels c).pendingReset = true ∨ v.ResetDone c

/-- What a past event says about the present. -/
def View.Fits (v : View) : Event → Prop
  | .channelState c s => c < v.next ∧ s ≤ (v.channels c).state
  | .handler (.closeHandler c) => c < v.next ∧ (v.channels c).state = .closed
  | .slotRef c previous => c < v.next ∧ (v.channels c).sid ≠ none ∧ previous = none
  | .slotDeref c => c < v.next ∧ (v.channels c).sid ≠ none ∧ ∀ i, v.slots i ≠ some c
  | .handler (.openHandler c) | .messageAccepted c => c < v.next
  | .resetStreams c sid _ => (v.channels c).sid = some sid
  | .transportState s | .handler (.stateChangeHandler s) => s ≤ v.state
  | .handler .detachHandler | .usrsctpClose | .fclose => v.detached = true
  | .invalidSlot _ => False
  | _ => True

/-- The history is one the states and slots can have come from. -/
structure HistoryOk (v : View) : Prop where
  ordered : v.history.Pairwise Event.Precedes
  fits : ∀ e ∈ v.history, v.Fits e
  held : ∀ ⦃i c⦄, (v.channels c).sid = some i →
    .slotRef c none ∈ v.history ∧ (v.slots i = some c ∨ .slotDeref c ∈ v.history)

/-- The flags of the transport fit its state. -/
structure FlagsOk (L : Limits) (g : Ongoing) (v : View) : Prop where
  detached_of_closed : v.state = .closed → v.detached = true
  closed_of_detached : v.detached = true → v.state = .closed ∨ g.detaching
  idle_of_low : v.low = true → v.idle = true
  next_le : (v.next : ℕ∞) ≤ L.maxChannels
  dcepSid_lt : L.sidsBelow → v.dcepSid < v.nSlots

/-- The lifecycle invariant. -/
structure Inv (L : Limits) (g : Ongoing) (v : View) : Prop where
  slots : SlotsOk L g v
  history : HistoryOk v
  flags : FlagsOk L g v

variable {L : Limits} {g g' : Ongoing} {v v' v'' : View} {c : ChannelId} {e : Event}

theorem Inv.mono (h : Inv L g v) (hg : g.Le g') : Inv L g' v where
  slots := { h.slots with
    closed := fun _ _ hi hc => hg.closing _ (h.slots.closed hi hc)
    connected := fun hs _ _ hi hc =>
      (h.slots.connected hs hi hc).imp (hg.registering _) hg.opening }
  history := h.history
  flags := { h.flags with
    closed_of_detached := fun hd => (h.flags.closed_of_detached hd).imp_right hg.detaching }

/-- A registered channel exists. -/
theorem SlotsOk.lt_next (h : SlotsOk L g v) {i : Nat} (hi : v.slots i = some c) :
    c < v.next := by
  by_contra hn
  have := h.unregistered_of_next_le (Nat.le_of_not_lt hn)
  rw [h.sid_of_slot hi] at this
  cases this

/-! ## Section 3: What may be relied upon -/

theorem TransportState.le_closed (s : TransportState) : s ≤ .closed := by
  cases s <;> decide

theorem DataChannelState.le_closed (s : DataChannelState) : s ≤ .closed := by
  cases s <;> decide

/-- Nothing goes back. -/
structure Forward (v v' : View) : Prop where
  states : ∀ c, (v.channels c).state ≤ (v'.channels c).state
  next : v.next ≤ v'.next
  sid : ∀ ⦃c i⦄, (v.channels c).sid = some i → (v'.channels c).sid = some i
  slots : ∀ ⦃i c⦄, v.slots i = some c →
    v'.slots i = some c ∨ (v.channels c).state ≠ .closed ∧ (v'.channels c).state = .closed
  state : v.state ≤ v'.state
  nSlots : v'.nSlots = v.nSlots
  detached : v.detached = true → v'.detached = true ∧ v'.state = v.state ∧
    v'.socket = v.socket ∧ ∀ e : Event, e.IsShutdown → e ∈ v'.history → e ∈ v.history
  reports : v'.state = v.state → ∀ s, .handler (.stateChangeHandler s) ∈ v'.history →
    .handler (.stateChangeHandler s) ∈ v.history

/-- What the surroundings keep while `g` is in progress. -/
structure Rely (g : Ongoing) (v v' : View) : Prop extends Forward v v' where
  connecting : v.state = .connected → v'.state = .connected → ∀ ⦃i c⦄, v'.slots i = some c →
    (v'.channels c).state = .connecting → v.slots i = some c ∧ (v.channels c).state = .connecting
  registering : ∀ ⦃c⦄, g.registering c → (v.channels c).sid ≠ none →
    (v.channels c).state = .connecting → (v'.channels c).state = .connecting ∨ v'.state = .closed
  frozen : g.frozen → v'.state = v.state ∧ v'.detached = v.detached ∧ v'.socket = v.socket

theorem Forward.refl (v : View) : Forward v v where
  states _ := le_refl _
  next := le_refl _
  sid _ _ := id
  slots _ _ := .inl
  state := le_refl _
  nSlots := rfl
  detached h := ⟨h, rfl, rfl, fun _ _ => id⟩
  reports _ _ := id

theorem Forward.trans (h : Forward v v') (h' : Forward v' v'') : Forward v v'' where
  states c := (h.states c).trans (h'.states c)
  next := h.next.trans h'.next
  sid _ _ hs := h'.sid (h.sid hs)
  slots _ _ hi := by
    rcases h.slots hi with hi' | ⟨hc, hc'⟩
    · refine (h'.slots hi').imp_right ?_
      rintro ⟨hc, hc'⟩
      refine ⟨fun hv => hc ?_, hc'⟩
      exact le_antisymm (DataChannelState.le_closed _) (hv ▸ h.states _)
    · refine .inr ⟨hc, ?_⟩
      exact le_antisymm (DataChannelState.le_closed _) (hc' ▸ h'.states _)
  state := h.state.trans h'.state
  nSlots := h'.nSlots.trans h.nSlots
  detached hd := by
    obtain ⟨hd', hs, hsock, hev⟩ := h.detached hd
    obtain ⟨hd'', hs', hsock', hev'⟩ := h'.detached hd'
    exact ⟨hd'', hs'.trans hs, hsock'.trans hsock, fun e he hm => hev e he (hev' e he hm)⟩
  reports hs s hm := by
    have h₁ : v'.state = v.state := le_antisymm (hs ▸ h'.state) h.state
    have h₂ : v''.state = v'.state := hs.trans h₁.symm
    exact h.reports h₁ s (h'.reports h₂ s hm)

theorem Rely.refl (g : Ongoing) (v : View) : Rely g v v where
  toForward := Forward.refl v
  connecting _ _ _ _ hi hc := ⟨hi, hc⟩
  registering _ _ _ hc := .inl hc
  frozen _ := ⟨rfl, rfl, rfl⟩

theorem Rely.trans (h : Rely g v v') (h' : Rely g v' v'') : Rely g v v'' where
  toForward := h.toForward.trans h'.toForward
  connecting hs hs'' _ _ hi hc := by
    have hs' : v'.state = .connected := le_antisymm (hs'' ▸ h'.state) (hs ▸ h.state)
    obtain ⟨hi', hc'⟩ := h'.connecting hs' hs'' hi hc
    exact h.connecting hs hs' hi' hc'
  registering _ hg hsid hc := by
    obtain ⟨i, hi⟩ := Option.ne_none_iff_exists'.mp hsid
    rcases h.registering hg hsid hc with hc' | hs'
    · exact h'.registering hg (by rw [h.sid hi]; simp) hc'
    · exact .inr (le_antisymm (TransportState.le_closed _) (hs' ▸ h'.state))
  frozen hg := by
    obtain ⟨h₁, h₂, h₃⟩ := h.frozen hg
    obtain ⟨h₁', h₂', h₃'⟩ := h'.frozen hg
    exact ⟨h₁'.trans h₁, h₂'.trans h₂, h₃'.trans h₃⟩

/-- Less may be relied upon when less is in progress. -/
theorem Rely.anti (h : Rely g' v v') (hg : g.Le g') (hfrozen : g.frozen → g'.frozen) :
    Rely g v v' where
  toForward := h.toForward
  connecting := h.connecting
  registering _ hc := h.registering (hg.registering _ hc)
  frozen hf := h.frozen (hfrozen hf)

/-- What is kept apart from a channel that is just being registered. -/
structure RelyBut (c : ChannelId) (g : Ongoing) (v v' : View) : Prop extends Forward v v' where
  connecting : v.state = .connected → v'.state = .connected → ∀ ⦃i c'⦄, c' ≠ c →
    v'.slots i = some c' → (v'.channels c').state = .connecting →
    v.slots i = some c' ∧ (v.channels c').state = .connecting
  registering : ∀ ⦃c'⦄, c' ≠ c → g.registering c' → (v.channels c').sid ≠ none →
    (v.channels c').state = .connecting → (v'.channels c').state = .connecting ∨ v'.state = .closed
  frozen : g.frozen → v'.state = v.state ∧ v'.detached = v.detached ∧ v'.socket = v.socket

theorem Rely.but (h : Rely g v v') (c : ChannelId) : RelyBut c g v v' where
  toForward := h.toForward
  connecting hs hs' _ _ _ hi hc := h.connecting hs hs' hi hc
  registering _ _ := @h.registering _
  frozen := h.frozen

theorem RelyBut.trans (h : RelyBut c g v v') (h' : RelyBut c g v' v'') : RelyBut c g v v'' where
  toForward := h.toForward.trans h'.toForward
  connecting hs hs'' _ _ hne hi hc := by
    have hs' : v'.state = .connected := le_antisymm (hs'' ▸ h'.state) (hs ▸ h.state)
    obtain ⟨hi', hc'⟩ := h'.connecting hs' hs'' hne hi hc
    exact h.connecting hs hs' hne hi' hc'
  registering _ hne hg hsid hc := by
    obtain ⟨i, hi⟩ := Option.ne_none_iff_exists'.mp hsid
    rcases h.registering hne hg hsid hc with hc' | hs'
    · exact h'.registering hne hg (by rw [h.sid hi]; simp) hc'
    · exact .inr (le_antisymm (TransportState.le_closed _) (hs' ▸ h'.state))
  frozen hg := by
    obtain ⟨h₁, h₂, h₃⟩ := h.frozen hg
    obtain ⟨h₁', h₂', h₃'⟩ := h'.frozen hg
    exact ⟨h₁'.trans h₁, h₂'.trans h₂, h₃'.trans h₃⟩

/-- Nothing was relied upon for a channel that nobody registers or that was new. -/
theorem RelyBut.rely (h : RelyBut c g v v') (hnew : g.registering c → (v.channels c).sid = none)
    (hc : v'.state = .connected → (v'.channels c).state ≠ .connecting) : Rely g v v' where
  toForward := h.toForward
  connecting hs hs' i c' hi hc' := by
    have hne : c' ≠ c := by rintro rfl; exact hc hs' hc'
    exact h.connecting hs hs' hne hi hc'
  registering c' hg hsid := by
    have hne : c' ≠ c := by rintro rfl; exact hsid (hnew hg)
    exact h.registering hne hg hsid
  frozen := h.frozen

end RawrtcDataChannel
