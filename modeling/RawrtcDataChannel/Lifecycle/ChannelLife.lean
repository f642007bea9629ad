import RawrtcDataChannel.Lifecycle.TransportLife

/-!
# The life of a data channel moves forward

The states of a channel only move forward, and after closing has begun the channel is neither
opened nor used for sending any more. The handlers of the channels may send, close and create
channels meanwhile, with one exception: the data channel handler must not close the channel it
announces. `channel_register` goes on after it and opens the channel, whatever its state is.
-/

namespace RawrtcDataChannel

open Reentrant

/-! ## Section 1: Reading the history -/

/-- The state an event says the channel has entered. -/
def Event.channelState? (c : ChannelId) : Event → Option DataChannelState
  | .channelState c' s => if c' = c then some s else none
  | _ => none

theorem Event.channelState?_eq_some {c : ChannelId} {e : Event} {s : DataChannelState} :
    e.channelState? c = some s ↔ e = .channelState c s := by
  cases e with
  | channelState c' s' => simp [channelState?]
  | _ => simp [channelState?]

/-- The states `rawrtc_data_channel_set_state` has set on a channel, oldest first. -/
def statesSet (c : ChannelId) (history : List Event) : List DataChannelState :=
  history.filterMap (Event.channelState? c)

theorem mem_statesSet {c : ChannelId} {history : List Event} {s : DataChannelState} :
    s ∈ statesSet c history ↔ .channelState c s ∈ history := by
  simp [statesSet, List.mem_filterMap, Event.channelState?_eq_some]

/-! ## Section 2: What handlers do -/

/-- The handlers that are called for a channel. -/
def Op.ofChannel : Op → Bool
  | .handler (.dataChannelHandler _) | .handler (.openHandler _) => true
  | .handler (.messageHandler _ _ _) | .handler (.bufferedAmountLowHandler _) => true
  | .handler (.closeHandler _) => true
  | _ => false

/-- Sending on channels, closing and creating them. -/
def Call.usesChannel : Call → Bool
  | .send _ _ _ | .close _ | .create _ _ => true
  | _ => false

/-- The application and the event loop do as they like, and the handlers of channels send, close
    and create. -/
def HandlersUse : List (Call × Op) → Call → Prop
  | [], _ => True
  | f :: _, a => f.2.ofChannel = true ∧ a.usesChannel = true

instance : (fs : List (Call × Op)) → (a : Call) → Decidable (HandlersUse fs a)
  | [], _ => inferInstanceAs (Decidable True)
  | _ :: _, _ => inferInstanceAs (Decidable (_ ∧ _))

/-- The channel the call closes. -/
def Call.closes? : Call → Option ChannelId
  | .close c => some c
  | _ => none

/-- No channel is closed while it is announced. -/
def SparesAnnounced (fs : List (Call × Op)) (a : Call) : Prop :=
  ∀ c ∈ a.closes?, ∀ f ∈ fs, f.2 ≠ .handler (.dataChannelHandler c)

instance (fs : List (Call × Op)) (a : Call) : Decidable (SparesAnnounced fs a) :=
  inferInstanceAs (Decidable (∀ c ∈ a.closes?, _))

theorem allowed_of_handlersUse {fs : List (Call × Op)} {s : Transport} {a : Call}
    (h : HandlersUse fs a) (hspares : SparesAnnounced fs a) : Allowed {} fs s a where
  handler f fs' hfs := by
    subst hfs
    obtain ⟨hf, ha⟩ := h
    constructor
    · revert hf
      obtain ⟨b, o⟩ := f
      cases o <;> simp [Op.ofChannel, Op.isHandler]
    · revert ha
      cases a <;> simp [Call.usesChannel, Call.FromHandler]
  close c ha := by
    subst ha
    rintro ⟨b, hb⟩
    exact hspares c rfl _ hb rfl
  stop ha := by
    subst ha
    cases fs with
    | nil => simp [ongoing]
    | cons f fs => cases h.2
  maxChannels _ := le_top
  sidsBelow := False.elim

/-! ## Section 3: Every run -/

/-- Every channel moves forward, and once its closing has begun it is not opened again and
    accepts no more messages. -/
structure ChannelsMoveForward [MessageBuffer] (t : Transport) : Prop where
  states : ∀ c, (statesSet c t.history).Pairwise (· < ·)
  not_past : ∀ c, ∀ s ∈ statesSet c t.history, s ≤ (t.dataChannels c).state
  not_opened : ∀ c past future, t.history = past ++ future →
    (∃ s ∈ statesSet c past, .closing ≤ s) → .opened ∉ statesSet c future ∧
      .handler (.openHandler c) ∉ future ∧ .messageAccepted c ∉ future
  send_fails : ∀ c, (∃ s ∈ statesSet c t.history, .closing ≤ s) → ∀ buffer isBinary,
    (dataChannelSend c buffer isBinary).run t = .ret .invalidState t

/-- On a channel that is not open, sending fails. -/
theorem run_dataChannelSend_of_not_opened [MessageBuffer] {c : ChannelId} {s : Transport}
    (h : (s.dataChannels c).state ≠ .opened) (buffer : Option Mbuf) (isBinary : Bool) :
    (dataChannelSend c buffer isBinary).run s = .ret .invalidState s := by
  simp only [dataChannelSend, Routine.run_bind, Routine.run_get, Prog.bind, Routine.run_ite,
    if_pos h, Routine.run_pure]

theorem Inv.channelsMoveForward [MessageBuffer] {L : Limits} {g : Ongoing} {t : Transport}
    (h : Inv L g t.view) : ChannelsMoveForward t := by
  have hord : t.history.Pairwise Event.Precedes := h.history.ordered
  have hpast : ∀ c, ∀ s ∈ statesSet c t.history, s ≤ (t.dataChannels c).state := fun c s hs =>
    (h.history.fits _ (mem_statesSet.mp hs)).2
  refine ⟨?_, hpast, ?_, ?_⟩
  · intro c
    refine hord.filterMap _ fun e e' he s hs s' hs' => ?_
    exact he.states c s s' (Event.channelState?_eq_some.mp hs) (Event.channelState?_eq_some.mp hs')
  · rintro c past future heq ⟨s, hs, hclosing⟩
    rw [heq] at hord
    -- whatever comes after the event that began the closing
    have hafter : ∀ e ∈ future, Event.Precedes (.channelState c s) e := fun e he =>
      (List.pairwise_append.mp hord).2.2 _ (mem_statesSet.mp hs) e he
    refine ⟨fun hm => ?_, fun hm => ?_, fun hm => ?_⟩
    · have hlt : s < .opened := (hafter _ (mem_statesSet.mp hm)).states c s _ rfl rfl
      exact absurd (hclosing.trans_lt hlt) (by decide)
    · exact absurd ((hafter _ hm).opened c s rfl rfl) (not_lt.mpr hclosing)
    · exact absurd ((hafter _ hm).accepted c s rfl rfl) (not_lt.mpr hclosing)
  · rintro c ⟨s, hs, hclosing⟩ buffer isBinary
    refine run_dataChannelSend_of_not_opened (fun hopened => ?_) buffer isBinary
    have hle := hclosing.trans (hpast c s hs)
    rw [hopened] at hle
    exact absurd hle (by decide)

/-- **A data channel's life only moves forward**, in every run in which no channel is closed from
    the data channel handler that announces it, and the transport is not let go of while it has
    channels. -/
theorem channel_life_forward [MessageBuffer]
    (dataChannelHandler stateChangeHandler destroyedHandler traceHandle : Bool)
    (usrsctpChunkSize : Nat) {c : Config Call Op Op.Reply Transport Result}
    (h : Reachable (host fun fs s a =>
        HandlersUse fs a ∧ SparesAnnounced fs a ∧ KeepsHandle s a)
      (.create dataChannelHandler stateChangeHandler destroyedHandler traceHandle
        usrsctpChunkSize) c) : ChannelsMoveForward c.state :=
  (reachable_inv (L := {}) (fun _ _ _ hp => allowed_of_handlersUse hp.1 hp.2.1)
    (create_inv _ _ _ _ _) h).1.channelsMoveForward

/-- A negotiated channel that is created and closed. -/
theorem channel_life_forward_create_close :
    @ChannelsMoveForward listMessageBuffer ([.enter (.create (.ofFields none .reliableOrdered 0 none
      true 0) {}), .answer, .answer, .enter (.close 0), .answer, .answer].foldl
      (play (listHost fun fs s a => HandlersUse fs a ∧ SparesAnnounced fs a ∧ KeepsHandle s a)
        obligingOracle) ⟨.create false false false false 1200, []⟩).state :=
  @channel_life_forward listMessageBuffer false false false false 1200 _
    (Reachable.start.script (fun _ _ => trivial) (by decide +kernel))

/-! ## Section 4: Closing a channel while it is announced -/

/-- An OPEN message for a reliable and ordered channel without label and protocol. -/
def plainOpenMessage : Bytes :=
  [dcepMessageTypeOpen, 0x00, 0x01, 0x00, 0x00, 0x00, 0x00, 0x00, 0x00, 0x00, 0x00, 0x00]

/-- The peer opens a channel on stream 0, and the data channel handler closes it at once. The
    channel is set to open afterwards. -/
theorem channel_life_not_forward : ∃ c, Reachable (listHost fun fs _ a => HandlersUse fs a)
    (.create true false false false 1200) c ∧ ¬ @ChannelsMoveForward listMessageBuffer c.state := by
  let receive : List (Move Call) :=
    .enter (.readEvent (.data plainOpenMessage (some ⟨0, ppidDcep⟩) true)) ::
      List.replicate 8 .answer
  let close : List (Move Call) := [.enter (.close 0), .answer, .answer, .answer]
  have hconnected : Reachable (listHost fun fs _ a => HandlersUse fs a) _
      ⟨.createConnected true false false 1200, []⟩ :=
    @reachable_connected listMessageBuffer (fun fs _ a => HandlersUse fs a)
      (fun _ _ => trivial) true false false 1200 0
  have hplayable : Playable (listHost fun fs _ a => HandlersUse fs a) obligingOracle
      ⟨.createConnected true false false 1200, []⟩ (receive ++ close) := by decide +kernel
  refine ⟨_, hconnected.script (fun _ _ => trivial) hplayable, fun h => ?_⟩
  have hstates := @ChannelsMoveForward.states listMessageBuffer _ h 0
  revert hstates
  decide +kernel

end RawrtcDataChannel
