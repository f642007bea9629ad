import RawrtcDataChannel.Peers.Piecewise

/-!
# Connections that only grow

Two endpoints create channels and send messages on them, and no channel is closed. Then each end of
a stream is taken once, and both parties hold on to what they have.
-/

namespace RawrtcDataChannel

open Reentrant Streams

section Growing

variable [MessageBuffer] {w w' : Connection} {e : Side} {sid : Nat} {i : Item ChannelId Message}
  {c : ChannelId} {m : Message} {pre post : List (Item ChannelId Message)} {bytes : Bytes}
  {received : List (Side × ChannelId × Message)} {o : Option (Side × Nat × Item ChannelId Message)}

namespace Connection

/-! ## Section 1: Runs -/

/-- The channel that something of a message is received on, if there is one. -/
def receivedOn (w : Connection) :
    Option (Side × Nat × Item ChannelId Message) → List (Side × ChannelId × Message)
  | some (e, sid, .message _ m) => ((w.ends e).state.channels sid).toList.map fun c => (e, c, m)
  | _ => []

/-- The connections of all runs in which nobody closes a channel, and the messages of which
    something has been received so far, each with the channel that was there. -/
inductive Grown : List (Side × ChannelId × Message) → Connection → Prop where
  | created (dataChannelHandler destroyedHandler traceHandle : Side → Bool)
      (usrsctpChunkSize maxMessageSize : Side → Nat) :
      Grown [] (created dataChannelHandler destroyedHandler traceHandle usrsctpChunkSize
        maxMessageSize)
  | step {received : List (Side × ChannelId × Message)} {w w' : Connection}
      {o : Option (Side × Nat × Item ChannelId Message)} :
      Grown received w → Goes (.staying openerOf) Item.Overtakes w o w' →
      Grown (received ++ w.receivedOn o) w'

/-- A channel knows of its counterpart: it has acknowledged an OPEN message, or something else than
    an OPEN message has been received on it. -/
def Knows (w : Connection) (received : List (Side × ChannelId × Message)) (e : Side)
    (c : ChannelId) : Prop :=
  (∃ sid m, (sid, .message c m) ∈ (w.ends e).state.party.sent ∧ m.isDcep = true ∧
    m.bytes = [dcepMessageTypeAck]) ∨
  ∃ m, (e, c, m) ∈ received ∧ Vocabulary.proposal m = none

/-! ## Section 2: What holds in all of them -/

omit [MessageBuffer] in
theorem receivedOn_net (o : Option (Side × Nat × Item ChannelId Message)) :
    w.net.receivedOn o = w.receivedOn o := by
  rcases o with _ | ⟨e, sid, i⟩
  · rfl
  · cases i with
    | message c m =>
      simp only [Net.receivedOn, receivedOn, net, Transport.party]
      cases (w.ends e).state.channels sid <;> rfl
    | reset | response => rfl

omit [MessageBuffer] in
theorem knows_of_net (h : w.net.Knows received e c) : w.Knows received e c := by
  rcases h with ⟨sid, m, hm, hgreets, hproposal⟩ | h
  · exact .inl ⟨sid, m, hm, hgreets, bytes_of_greets hgreets hproposal⟩
  · exact .inr h

/-- The conversations go on, and nobody leaves. -/
structure Growth (received : List (Side × ChannelId × Message)) (w : Connection) : Prop
    extends Carried (.staying openerOf) w where
  steady : w.net.Steady openerOf
  mindful : w.net.Mindful received

omit [MessageBuffer] in
theorem growth_created (dataChannelHandler destroyedHandler traceHandle : Side → Bool)
    (usrsctpChunkSize maxMessageSize : Side → Nat) : Growth [] (created dataChannelHandler
      destroyedHandler traceHandle usrsctpChunkSize maxMessageSize) where
  toCarried := carried_created _ _ _ _ _ _
  steady := (vacant_created _ _ _ _ _).steady
  mindful := (vacant_created _ _ _ _ _).mindful

/-- **Every step keeps the conversations going.** -/
theorem Growth.step (h : w.Growth received)
    (hstep : Goes (.staying openerOf) Item.Overtakes w o w') :
    w'.Growth (received ++ w.receivedOn o) := by
  obtain ⟨hadvances, hcarried⟩ := h.toCarried.step (fun _ _ _ => Party.Moves.free) hstep
  refine ⟨hcarried, h.steady.advances h.net hadvances, ?_⟩
  rw [← receivedOn_net]
  exact h.mindful.advances h.steady hadvances

/-- **Nobody is in the way of anybody else**, in whatever order channels are created and messages
    are delivered. -/
theorem Grown.growth (h : Grown received w) : w.Growth received := by
  induction h with
  | created => exact growth_created _ _ _ _ _
  | step _ hstep ih => exact ih.step hstep

/-! ## Section 3: Runs against oracles -/

theorem Grown.enter (h : Grown received w) {a : Call}
    (ha : Permitted (pending (w.ends e).stack) (w.ends e).state a)
    (hfree : a.Free e (.staying openerOf e)) : Grown received (w.enter e a) := by
  simpa [receivedOn] using h.step (goes_enter ha hfree)

/-- A DCEP message is received. -/
theorem Grown.receive (h : Grown received w) (hidle : (w.ends e).stack = [])
    (hflight : w.flight e.other sid = .message c m :: post) (hdcep : m.isDcep = true) :
    Grown (received ++ w.receivedOn (some (e, sid, .message c m))) (w.receive e sid) :=
  h.step (goes_receive hidle hflight (readsWhole_of_dcep hdcep))

theorem Grown.receiveEnd (h : Grown received w) (hidle : (w.ends e).stack = [])
    (hflight : w.flight e.other sid = pre ++ .message c m :: post)
    (hpre : ∀ i' ∈ pre, (Item.message c m).Overtakes i') (huser : m.isDcep = false) :
    Grown (received ++ w.receivedOn (some (e, sid, .message c m)))
      (w.receiveEnd e sid c m (pre ++ post) bytes) :=
  h.step (goes_receiveEnd hidle hflight hpre huser)

end Connection

end Growing

end RawrtcDataChannel
