import RawrtcDataChannel.Lifecycle.Main

/-!
# The registry of channels

The slots of the transport, the stream ids in the contexts, the states of the channels and the
state of the transport are written by about ten routines, one after the other and with system
calls in between that may fail. Whenever such a routine has come to its end, they fit together.
-/

namespace RawrtcDataChannel

open Reentrant

/-- The slots of a transport and what they refer to fit together. -/
structure RegistryConsistent (t : Transport) : Prop where
  /-- A channel occupies at most one slot. -/
  unique : ∀ ⦃i j c⦄, t.channels i = some c → t.channels j = some c → i = j
  /-- A registered channel has a context that knows its slot. -/
  context : ∀ ⦃i c⦄, t.channels i = some c →
    ∃ context, (t.dataChannels c).transportArg = some context ∧ context.sid = i
  inRange : ∀ ⦃i c⦄, t.channels i = some c → i < t.nChannels
  /-- No slot has ever been overwritten. -/
  kept : ∀ c previous, .slotRef c previous ∈ t.history → previous = none
  notClosed : ∀ ⦃i c⦄, t.channels i = some c → (t.dataChannels c).state ≠ .closed
  connected : t.state = .connected → ∀ ⦃i c⦄, t.channels i = some c →
    (t.dataChannels c).state ≠ .connecting
  waiting : t.state < .connected → ∀ ⦃i c⦄, t.channels i = some c →
    (t.dataChannels c).state ≠ .opened

theorem Inv.registryConsistent {L : Limits} (hL : L.sidsBelow) {t : Transport}
    (h : Inv L (ongoing []) t.view) : RegistryConsistent t where
  unique i j c hi hj := by
    have hsid := h.slots.sid_of_slot hi
    rw [h.slots.sid_of_slot hj] at hsid
    exact (Option.some.inj hsid).symm
  context i c hi := by
    obtain ⟨context, hcontext, hsid⟩ := t.context_of_sid (h.slots.sid_of_slot hi)
    refine ⟨context, hcontext, ?_⟩
    simpa [Transport.context, hcontext] using hsid
  inRange i c hi := (h.slots.slot_lt hi).resolve_right fun hn => hn.1 hL
  kept c previous hm := (h.history.fits _ hm).2.2
  notClosed i c hi hc := by
    have hclosing := h.slots.closed hi hc
    simp [ongoing] at hclosing
  connected hs i c hi hc := by
    rcases h.slots.connected hs hi hc with hreg | hopen
    · simp [ongoing] at hreg
    · simp [ongoing] at hopen
  waiting hs i c hi := h.slots.waiting hs hi

/-- `channel_registered` never finds anything wrong. -/
theorem Inv.slot_valid {L : Limits} {g : Ongoing} {t : Transport} (h : Inv L g t.view)
    (c : ChannelId) : .invalidSlot c ∉ t.history :=
  h.not_mem_of_not_fits id

/-- The handlers do not use the library, and the stream id of incoming data belongs to a slot. -/
def HandlersSilent (fs : List (Call × Op)) (s : Transport) (a : Call) : Prop :=
  fs = [] ∧ a.SidBelow s.nChannels

/-- **The channel registry is always consistent**, whatever succeeds or fails, and the invalid slot
    branch of `channel_registered` is never taken. -/
theorem registry_consistent [MessageBuffer]
    (dataChannelHandler stateChangeHandler destroyedHandler traceHandle : Bool)
    (usrsctpChunkSize : Nat) {c : Config Call Op Op.Reply Transport Result}
    (h : Reachable (host HandlersSilent) (.create dataChannelHandler stateChangeHandler
      destroyedHandler traceHandle usrsctpChunkSize) c) :
    (c.stack = [] → RegistryConsistent c.state) ∧ ∀ ch, .invalidSlot ch ∉ c.state.history := by
  have hallowed : ∀ fs s a, HandlersSilent fs s a → Allowed { sidsBelow := True } fs s a := by
    rintro fs s a ⟨rfl, hsid⟩
    refine ⟨fun f fs' hfs => ?_, by simp [ongoing], by simp [ongoing], fun _ => le_top, fun _ => hsid⟩
    cases hfs
  have hinv := (reachable_inv hallowed (create_inv _ _ _ _ _) h).1
  refine ⟨fun hidle => ?_, hinv.slot_valid⟩
  rw [hidle] at hinv
  exact hinv.registryConsistent trivial

/-- A negotiated channel that is created on a new transport. -/
theorem registry_consistent_create :
    RegistryConsistent ([.enter (.create (.ofFields none .reliableOrdered 0 none true 0) {}),
      .answer, .answer].foldl (play (listHost HandlersSilent) obligingOracle)
      ⟨.create false false false false 1200, []⟩).state :=
  (@registry_consistent listMessageBuffer false false false false 1200 _
    (Reachable.start.script (fun _ _ => trivial) (by exact ⟨⟨rfl, trivial⟩, trivial⟩))).1
    (by decide +kernel)

end RawrtcDataChannel
