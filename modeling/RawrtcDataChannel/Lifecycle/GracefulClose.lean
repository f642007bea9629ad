import RawrtcDataChannel.Lifecycle.ChannelLife

/-!
# Closing gracefully

The closing procedure of a channel resets its outgoing stream. The reset must not overtake
messages that wait in the queue, so it is postponed as long as there are any, and made up for by
`handle_sender_dry_event`. The handlers called meanwhile may send, close and create channels, and
so fill the queue again.
-/

namespace RawrtcDataChannel

open Reentrant

/-- The handlers that may use the library: all that are called for a channel, except for the one
    that announces it. -/
def Op.mayUse : Op → Bool
  | .handler (.openHandler _) | .handler (.messageHandler _ _ _) => true
  | .handler (.bufferedAmountLowHandler _) | .handler (.closeHandler _) => true
  | _ => false

/-- The application and the event loop do as they like, and the handlers that may use the library
    send, close and create. -/
def HandlersClose (fs : List (Call × Op)) (a : Call) : Prop :=
  fs = [] ∨ (∀ f ∈ fs, f.2.mayUse = true) ∧ a.usesChannel = true

theorem allowed_of_handlersClose {fs : List (Call × Op)} {s : Transport} {a : Call}
    (h : HandlersClose fs a) : Allowed {} fs s a := by
  refine allowed_of_handlersUse ?_ ?_
  · rcases h with rfl | ⟨hall, ha⟩
    · trivial
    · cases fs with
      | nil => trivial
      | cons f fs =>
        refine ⟨?_, ha⟩
        have hf := hall f List.mem_cons_self
        revert hf
        obtain ⟨b, o⟩ := f
        cases o with
        | handler hd => cases hd <;> simp [Op.mayUse, Op.ofChannel]
        | _ => simp [Op.mayUse]
  · intro c _ f hf heq
    rcases h with rfl | ⟨hall, -⟩
    · cases hf
    · have hf := hall f hf
      rw [heq] at hf
      cases hf

/-- The stream resets are neither lost nor do they overtake messages. -/
structure ClosesGracefully [MessageBuffer] (c : Config Call Op Op.Reply Transport Result) :
    Prop where
  /-- While the reset of a stream is requested, no message waits. -/
  resets : ∀ f stack sid, c.stack = f :: stack → f.op = .resetStreams sid →
    c.state.bufferedMessagesOutgoing = []
  /-- The reset of the stream of a closing channel is pending, or it has been requested since the
      channel was registered. -/
  pending : ∀ ⦃i ch⦄, c.state.channels i = some ch → (c.state.dataChannels ch).state = .closing →
    (c.state.context ch).flags.pendingStreamReset = true ∨
    ∃ past future, c.state.history = past ++ future ∧ .slotRef ch none ∈ past ∧
      .resetStreams ch i none ∈ future
  /-- Once closing has begun no message is accepted. -/
  not_accepted : ∀ ch past future, c.state.history = past ++ future →
    (∃ s ∈ statesSet ch past, .closing ≤ s) → .messageAccepted ch ∉ future
  send_fails : ∀ ch, (∃ s ∈ statesSet ch c.state.history, .closing ≤ s) → ∀ buffer isBinary,
    (dataChannelSend ch buffer isBinary).run c.state = .ret .invalidState c.state

/-- In a list in which `b` does not come before `a`, it comes after it. -/
theorem exists_append_of_pairwise {α : Type} {R : α → α → Prop} {l : List α} (h : l.Pairwise R)
    {a b : α} (ha : a ∈ l) (hb : b ∈ l) (hne : a ≠ b) (hnot : ¬ R b a) :
    ∃ past future, l = past ++ future ∧ a ∈ past ∧ b ∈ future := by
  obtain ⟨past, future, rfl⟩ := List.append_of_mem ha
  refine ⟨past ++ [a], future, by simp, by simp, ?_⟩
  rcases List.mem_append.mp hb with hb | hb
  · exact absurd ((List.pairwise_append.mp h).2.2 b hb a List.mem_cons_self) hnot
  · exact (List.mem_cons.mp hb).resolve_left hne.symm

theorem closesGracefully_of_inv [MessageBuffer] {c : Config Call Op Op.Reply Transport Result}
    (h : (contract {}).inv (pending c.stack) c.state) : ClosesGracefully c where
  resets f stack sid hstack hop := by
    have hidle := h.2
    rw [hstack] at hidle
    simpa [pending, ResetsIdle, hop] using hidle
  pending i ch hslot hclosing := by
    refine (h.1.slots.reset hslot hclosing).imp_right ?_
    rintro ⟨sid, hreset⟩
    have hsid := h.1.slots.sid_of_slot hslot
    obtain rfl : i = sid := Option.some.inj (hsid.symm.trans (h.1.history.fits _ hreset))
    refine exists_append_of_pairwise h.1.history.ordered (h.1.history.held hsid).1 hreset (by simp) ?_
    exact fun hprec => hprec.registered ch i none none rfl rfl
  not_accepted ch past future hhistory hclosing :=
    (h.1.channelsMoveForward.not_opened ch past future hhistory hclosing).2.2
  send_fails := h.1.channelsMoveForward.send_fails

/-- **Graceful close neither loses the stream reset nor lets it overtake data.** -/
theorem closes_gracefully [MessageBuffer]
    (dataChannelHandler stateChangeHandler destroyedHandler traceHandle : Bool)
    (usrsctpChunkSize : Nat) {c : Config Call Op Op.Reply Transport Result}
    (h : Reachable (host fun fs _ a => HandlersClose fs a) (.create dataChannelHandler
      stateChangeHandler destroyedHandler traceHandle usrsctpChunkSize) c) : ClosesGracefully c :=
  closesGracefully_of_inv (reachable_inv (fun _ _ _ => allowed_of_handlersClose)
    (create_inv _ _ _ _ _) h)

/-- The stream of a negotiated channel is about to be reset. -/
theorem closes_gracefully_close :
    @ClosesGracefully listMessageBuffer ([.enter (.create (.ofFields none .reliableOrdered 0 none
      true 0) {}), .answer, .answer, .enter (.close 0), .answer].foldl
      (play (listHost fun fs _ a => HandlersClose fs a) obligingOracle)
      ⟨.create false false false false 1200, []⟩) :=
  @closes_gracefully listMessageBuffer false false false false 1200 _
    (Reachable.start.script (fun _ _ => trivial) (by exact ⟨.inl rfl, .inl rfl, trivial⟩))

end RawrtcDataChannel
