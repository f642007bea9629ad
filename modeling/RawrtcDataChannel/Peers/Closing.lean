import RawrtcDataChannel.Peers.Messages
import RawrtcDataChannel.Streams.LastItems

/-!
# What a channel leaves behind

At the end of a channel nothing is cut off. A reset is requested only after usrsctp has been given
everything that has been sent on the channel, so nothing of it waits in the queue any more. The peer
is asked to close a channel only after everything that has been sent on it, and is answered only
when everything has come. So a channel of a reliable type that is over has been handed everything
that has been sent to it. No channel stays open whose counterpart is over.
-/

namespace RawrtcDataChannel

open Reentrant Streams

section Closing

variable [MessageBuffer] {attended : Side → ChannelId → Prop} {w : Connection} {e : Side}
  {sid k : Nat} {c c' : ChannelId}

/-! ## Section 1: Channels that are over -/

namespace Transport

/-- The channel is not in this slot any more, or its incoming stream has been reset. -/
def IncomingOver (t : Transport) (sid : Nat) (c : ChannelId) : Prop :=
  t.channels sid = some c → (t.dataChannels c).flags.incomingStreamReset = true

/-- The channel is not in this slot any more, or its outgoing stream has been reset. -/
def OutgoingOver (t : Transport) (sid : Nat) (c : ChannelId) : Prop :=
  t.channels sid = some c → (t.dataChannels c).flags.outgoingStreamReset = true

/-- usrsctp has been given everything that has been sent up to a request to reset the stream, and
    nothing that the channel has sent comes after that. -/
def GivenUpToReset (t : Transport) (sid : Nat) (c : ChannelId) : Prop :=
  ∃ before after given, t.party.sent = before ++ (sid, .reset) :: after ∧
    (∀ m, (sid, .message c m) ∉ after) ∧
    t.wire.items = before.filterMap wireItem? ++ .reset sid :: given

variable {t : Transport}

omit [MessageBuffer] in
/-- Only messages wait in the queue, so a request does not come before anything that waits. -/
theorem Forwards.givenUpToReset (h : t.Forwards) (hconcluded : t.party.Concluded sid c) :
    t.GivenUpToReset sid c := by
  obtain ⟨pre, post, hitems, hpost⟩ := hconcluded
  -- the request, with what was sent before it and after it on all streams
  obtain ⟨sent₁, sent₂, hsent, -, hrest⟩ := List.filterMap_eq_append_iff.mp hitems
  obtain ⟨sent₃, ⟨j, i⟩, after, rfl, -, hreset, rfl⟩ := List.filterMap_eq_cons_iff.mp hrest
  obtain ⟨rfl, rfl⟩ : j = sid ∧ i = .reset := by simpa using hreset
  rw [← List.append_assoc] at hsent
  obtain ⟨offset, ms, -, -, hwire⟩ := h
  have hasked : wireItem? (j, .reset) = some (.reset j) := rfl
  rw [hsent, List.filterMap_append, List.filterMap_cons_some hasked] at hwire
  -- the queue holds messages only
  have hnot : WireItem.reset j ∉ ms.map OutMessage.wireItem := by
    simp [OutMessage.wireItem]
  refine ⟨sent₁ ++ sent₃, after, ?_⟩
  rcases List.append_eq_append_iff.mp hwire with ⟨k, hk, hcut⟩ | ⟨k, hk, hcut⟩
  · cases k with
    | nil =>
      rw [List.nil_append] at hcut
      rw [← hcut] at hnot
      exact absurd List.mem_cons_self hnot
    | cons x k =>
      obtain ⟨rfl, -⟩ := List.cons.inj hcut
      refine ⟨k, hsent, fun m hm => ?_, hk⟩
      exact hpost m (List.mem_filterMap.mpr ⟨_, hm, by simp⟩)
  · -- the request would be waiting
    rw [hcut] at hnot
    exact absurd (List.mem_append_right k List.mem_cons_self) hnot

omit [MessageBuffer] in
theorem IncomingOver.asked (h : t.IncomingOver sid c) : t.party.Asked sid c := by
  rintro r hr rfl
  obtain ⟨hslot, hr'⟩ := slot_of_streams hr
  rw [hr']
  exact h hslot

omit [MessageBuffer] in
theorem OutgoingOver.answered (h : t.OutgoingOver sid c) : t.party.Answered sid c := by
  rintro r hr rfl
  obtain ⟨hslot, hr'⟩ := slot_of_streams hr
  rw [hr']
  exact h hslot

end Transport

omit [MessageBuffer] in
/-- A channel that has sent something and has left its slot is closing. -/
theorem Sound.leaving_of_user {n : Nat} {s : Transport} (h : Sound n s)
    (hc : s.party.user sid k = some c) (hslot : s.channels sid ≠ some c) :
    (s.dataChannels c).state.stage = .leaving := by
  obtain ⟨m, hm⟩ := Party.exists_sent_of_mem_users (Party.mem_users.mpr ⟨k, hc⟩)
  -- as long as it stays, it keeps the slot of the stream on which it has sent
  by_contra hstaying
  exact hslot (h.held (h.sent hm).1 hstaying)

namespace Connection

/-- Whoever may not send any more has requested a reset after its last message. -/
theorem Reached.concludesAll (h : w.Reached) (e : Side) :
    (w.ends e).state.party.ConcludesAll := by
  obtain ⟨_, _, _, _, _, hsteps⟩ := h
  induction hsteps generalizing e with
  | refl => exact (vacant_created _ _ _ _ _).concludesAll e
  | tail hsteps hstep ih =>
    have hinv := Reached.inv ⟨_, _, _, _, _, hsteps⟩
    exact hinv.net.concludesAll_step ih (hinv.step (attended_none _) hstep).1.net e

/-! ## Section 2: Results -/

/-- **Nothing is cut off.** When a channel is over, on either side, then usrsctp has been given
    everything that has been sent on it before it has been asked to reset the stream. All of it has
    been handed over, if its type is reliable and it has always been attended. If its type is
    ordered, too, then it has been handed over in the order in which it has been sent. -/
theorem ReachedAttending.handed_completely (h : w.ReachedAttending attended)
    (hattended : attended e c') (hc : (w.ends e.other).state.party.user sid k = some c)
    (hc' : (w.ends e).state.party.user sid k = some c')
    (htype : ((w.ends e.other).state.dataChannels c).parameters.channelType.isReliable = true)
    (hover : (w.ends e).state.IncomingOver sid c' ∨ (w.ends e.other).state.OutgoingOver sid c) :
    (w.ends e.other).state.GivenUpToReset sid c ∧
      ((w.ends e).state.handedOn c').Perm ((w.ends e.other).state.sentOn c) ∧
      (((w.ends e.other).state.dataChannels c).parameters.channelType.isUnordered = false →
        (w.ends e).state.handedOn c' = (w.ends e.other).state.sentOn c) := by
  have hbalanced := h.balanced
  have hconcluded : (w.ends e.other).state.party.Concluded sid c := by
    rcases h.reached.concludesAll e.other (Party.mem_users.mpr ⟨k, hc⟩) with
      ⟨r, hr, rfl, hspeaks⟩ | hconcluded
    · -- it has requested a reset if it is still there
      have hrequested : r.requested = true := by
        rcases hover with hin | hout
        · exact hbalanced.requested h.reached.inv.net hc hc' hr hin.asked
        · exact h.reached.inv.net.requested_of_answered hr (hout.answered hr rfl)
      rw [hspeaks] at hrequested
      cases hrequested
    · exact hconcluded
  have hmessages : messagesOf Message.content c (w.flight e.other sid) = [] :=
    hbalanced.nothing_underway h.reached.inv.net hc hc' (hover.imp (·.asked) (·.answered))
  have hnothing : w.underWayOn e.other sid c = [] := by
    rw [underWayOn, hmessages, List.filterMap_nil]
  have hperm : ((w.ends e).state.handedOn c' ++ w.underWayOn e.other sid c).Perm
      ((w.ends e.other).state.sentOn c) :=
    hbalanced.exactly_once hc hc' hattended (h.reached.lossless htype)
  have hsublist :
      ((w.ends e.other).state.dataChannels c).parameters.channelType.isUnordered = false →
        ((w.ends e).state.handedOn c' ++ w.underWayOn e.other sid c).Sublist
          ((w.ends e.other).state.sentOn c) :=
    fun hordered => hbalanced.in_order hc hc' (h.reached.ordered hordered)
  rw [hnothing, List.append_nil] at hperm hsublist
  -- nothing can be missing from a subsequence of the same length
  exact ⟨(h.reached.forwards e.other).givenUpToReset hconcluded, hperm,
    fun hordered => (hsublist hordered).eq_of_length hperm.length_eq⟩

/-- The server has been handed the message, and the client has closed the channel. -/
def concluding : Connection :=
  @enter listMessageBuffer (received.resume .server) .client (.close 0)

/-- The server has been asked to close it, too. -/
def concluded : Connection :=
  @receive listMessageBuffer concluding .server 0

omit [MessageBuffer] in
theorem reached_concluded :
    @ReachedAttending listMessageBuffer (fun e c => e = .server ∧ c = 0) concluded := by
  have hattended : ∀ w : Connection,
      ((w.ends .server).state.dataChannels 0).handlers.messageHandler = true →
      w.Attended fun e c => e = .server ∧ c = 0 := by
    rintro w hw e sid c ⟨rfl, rfl⟩ _ _ _
    exact hw
  have hresumed : @ReachedAttending listMessageBuffer _ (received.resume .server) :=
    @ReachedAttending.step listMessageBuffer _ _ _ reached_received (hattended _ rfl)
      (@step_resume listMessageBuffer received .server _ [] rfl)
  have hconcluding : @ReachedAttending listMessageBuffer _ concluding :=
    @ReachedAttending.step listMessageBuffer _ _ _ hresumed (hattended _ rfl)
      (@step_enter listMessageBuffer _ .client (.close 0)
        ⟨fun f hf => (by cases hf), fun b hb => by cases hb⟩)
  exact @ReachedAttending.step listMessageBuffer _ _ _ hconcluding (hattended _ rfl)
    (@step_receive listMessageBuffer concluding .server 0 _ [] rfl rfl)

omit [MessageBuffer] in
theorem handed_completely_concluded :
    (concluded.ends .server).state.handedOn 0 = (concluded.ends .client).state.sentOn 0 :=
  (@ReachedAttending.handed_completely listMessageBuffer (fun e c => e = .server ∧ c = 0) concluded
    .server 0 0 0 0 reached_concluded ⟨rfl, rfl⟩ rfl rfl rfl (.inl fun _ => rfl)).2.2 rfl

/-- **Channels close at both ends.** When a channel is over, there has been a counterpart at the
    other end, which is closing or closed. -/
theorem Reached.closes_at_both_ends (h : w.Reached)
    (hc' : (w.ends e).state.party.user sid k = some c')
    (hover : (w.ends e).state.IncomingOver sid c') :
    ∃ c, (w.ends e.other).state.party.user sid k = some c ∧
      (((w.ends e.other).state.dataChannels c).state = .closing ∨
        ((w.ends e.other).state.dataChannels c).state = .closed) := by
  have hbalanced := h.attending_nobody.balanced
  have hsound := (h.inv.paused e.other).inv.sound
  obtain ⟨c, hc⟩ := h.inv.net.counterpart hc' hover.asked
  refine ⟨c, hc, leaving_iff.mp ?_⟩
  by_cases hslot : (w.ends e.other).state.channels sid = some c
  · -- it has asked for the reset of its stream
    have hrequested : (w.ends e.other).state.resetRequested c = true :=
      hbalanced.requested (r := (w.ends e.other).state.occupant c) h.inv.net hc hc'
        (Transport.streams_party hslot) hover.asked
    exact leaving_of_le ((hsound.consistent c).requested hrequested)
  · exact hsound.leaving_of_user hc hslot

omit [MessageBuffer] in
theorem closes_at_both_ends_concluded :
    ∃ c, (concluded.ends .client).state.party.user 0 0 = some c ∧
      (((concluded.ends .client).state.dataChannels c).state = .closing ∨
        ((concluded.ends .client).state.dataChannels c).state = .closed) :=
  @Reached.closes_at_both_ends listMessageBuffer concluded .server 0 0 0
    (@ReachedAttending.reached listMessageBuffer _ _ reached_concluded) rfl fun _ => rfl

end Connection

end Closing

end RawrtcDataChannel
