import RawrtcDataChannel.Peers.Agreement

/-!
# What becomes of the messages of an application

The channels that use a stream one after the other are numbered at each end, and two with the same
number belong together. What the application sends on one of them is handed to the application at
the other end, on the channel that belongs to it and on no other one. Nothing is handed over twice,
and on channels of an ordered type nothing is handed over out of order. On channels of a reliable
type nothing is missing, unless it arrives while nobody wants it.
-/

namespace RawrtcDataChannel

open Reentrant Streams

section Messages

variable [MessageBuffer] {attended : Side → ChannelId → Prop} {w w' : Connection} {e : Side}
  {sid k : Nat} {c c' : ChannelId}

/-! ## Section 1: Messages of channels -/

omit [MessageBuffer] in
/-- Whatever introduces a channel is not for the application. -/
theorem content_of_greets (m : Message) (h : Vocabulary.greets m = true) : m.content = none :=
  Message.content_of_dcep h

/-- What the application has sent on a channel. -/
def Transport.sentOn (t : Transport) (c : ChannelId) : List UserMessage :=
  (messagesOf Message.content c (t.party.sent.map Prod.snd)).filterMap Message.content

/-- What the application has been handed on a channel. -/
def Transport.handedOn (t : Transport) (c : ChannelId) : List UserMessage :=
  handedTo c t.handed

/-- What usrsctp has to be given for a message of the application. -/
def Transport.recordOf (t : Transport) (c : ChannelId) (u : UserMessage) : WireItem :=
  .message (.spa (userSendInfo (t.dataChannels c) (t.context c) u.ppid)) 0 u.payload

namespace Connection

/-- What has been sent on a channel and is still under way. -/
def underWayOn (w : Connection) (e : Side) (sid : Nat) (c : ChannelId) : List UserMessage :=
  (messagesOf Message.content c (w.flight e sid)).filterMap Message.content

/-- The connections of all runs in which these channels are attended. -/
def ReachedAttending (attended : Side → ChannelId → Prop) (w : Connection) : Prop :=
  ∃ dataChannelHandler destroyedHandler traceHandle usrsctpChunkSize maxMessageSize,
    Relation.ReflTransGen (fun w w' => w.Attended attended ∧ Step w w')
      (created dataChannelHandler destroyedHandler traceHandle usrsctpChunkSize maxMessageSize) w

theorem ReachedAttending.reached (h : w.ReachedAttending attended) : w.Reached := by
  obtain ⟨_, _, _, _, _, hsteps⟩ := h
  exact ⟨_, _, _, _, _, Relation.ReflTransGen.mono (fun _ _ hstep => hstep.2) _ _ hsteps⟩

/-- Every run is one in which nobody has to be attended. -/
theorem Reached.attending_nobody (h : w.Reached) : w.ReachedAttending fun _ _ => False := by
  obtain ⟨_, _, _, _, _, hsteps⟩ := h
  exact ⟨_, _, _, _, _,
    Relation.ReflTransGen.mono (fun w _ hstep => ⟨attended_none w, hstep⟩) _ _ hsteps⟩

theorem ReachedAttending.step (h : w.ReachedAttending attended) (hattended : w.Attended attended)
    (hstep : Step w w') : w'.ReachedAttending attended := by
  obtain ⟨_, _, _, _, _, hsteps⟩ := h
  exact ⟨_, _, _, _, _, hsteps.tail ⟨hattended, hstep⟩⟩

/-- **The account of a connection is balanced in every run.** -/
theorem ReachedAttending.balanced (h : w.ReachedAttending attended) :
    w.account.Balanced Message.content attended := by
  obtain ⟨_, _, _, _, _, hsteps⟩ := h
  induction hsteps with
  | refl => exact Account.balanced_vacant (vacant_created _ _ _ _ _) fun _ => rfl
  | tail hsteps hstep ih =>
    have hreached : ReachedAttending attended _ := ⟨_, _, _, _, _, hsteps⟩
    have hinv := hreached.reached.inv
    exact ih.step content_of_greets hinv.net (hinv.step hstep.1 hstep.2).1

/-- **What either end has sent is what usrsctp has been given and what waits in the queue**, whole
    messages and requests for resets in the order in which they have been sent. -/
theorem Reached.forwards (h : w.Reached) (e : Side) : (w.ends e).state.Forwards :=
  (h.inv.paused e).inv.sound.forwards

/-! ## Section 2: What the types of channels mean -/

/-- Whatever has been sent on a channel has been sent as its type says. -/
theorem Reached.allowed (h : w.Reached) {m : Message}
    (hm : m ∈ messagesOf Message.content c ((w.ends e).state.party.sent.map Prod.snd)) :
    ((w.ends e).state.dataChannels c).parameters.terms.Allow m := by
  obtain ⟨⟨j, i⟩, hsent, rfl⟩ := List.mem_map.mp (mem_messagesOf.mp hm).1
  exact ((h.inv.paused e).inv.sound.sent hsent).2

theorem Reached.ordered (h : w.Reached)
    (htype : ((w.ends e).state.dataChannels c).parameters.channelType.isUnordered = false) :
    ∀ m ∈ w.account.sentBy Message.content e c, Vocabulary.unordered m = false := by
  intro m hm
  have hallow := (h.allowed hm).unordered
  by_contra hunordered
  have htrue : ((w.ends e).state.dataChannels c).parameters.channelType.isUnordered = true :=
    hallow (by simpa [Vocabulary.unordered] using hunordered)
  rw [htype] at htrue
  cases htrue

theorem Reached.lossless (h : w.Reached)
    (htype : ((w.ends e).state.dataChannels c).parameters.channelType.isReliable = true) :
    ∀ m ∈ w.account.sentBy Message.content e c, Vocabulary.lossy m = false := by
  intro m hm
  have hallow := (h.allowed hm).lossy
  by_contra hlossy
  have hfalse : ((w.ends e).state.dataChannels c).parameters.channelType.isReliable = false :=
    hallow (by simpa [Vocabulary.lossy] using hlossy)
  rw [htype] at hfalse
  cases hfalse

/-! ## Section 3: Sending -/

/-- **What has been sent on a channel is what the application has been told so**: a call of
    `rawrtc_data_channel_send` succeeds if the channel is open and the message not too long. Then
    its message has been sent on that channel, and usrsctp is given it as a whole, after everything
    that either end has sent before. A call that fails changes nothing. -/
theorem Reached.send_adds (h : w.Reached) (e : Side) (c : ChannelId) (message : Option Mbuf)
    (isBinary : Bool) :
    (w.ends e).state.Forwards ∧
      ((dataChannelSend c message isBinary).run (w.ends e).state).Always (obliging (roleOf e))
        fun r t =>
          (w.ends e).state.MaySend c (.ofBuffer message isBinary) ∧ r = .success ∧
            t.sentOn c = (w.ends e).state.sentOn c ++ [.ofBuffer message isBinary] ∧
            (∀ c', c' ≠ c → t.sentOn c' = (w.ends e).state.sentOn c') ∧
            (∀ items, (w.ends e).state.Passes items →
              t.Passes (items ++ [(w.ends e).state.recordOf c (.ofBuffer message isBinary)])) ∨
          ¬ (w.ends e).state.MaySend c (.ofBuffer message isBinary) ∧ r ≠ .success ∧
            t = (w.ends e).state := by
  refine ⟨h.forwards e, ?_⟩
  generalize (w.ends e).state = s
  apply Prog.Always.mono (dataChannelSend_always (ampleMemory_obliging (roleOf e))
    (ampleContexts_obliging (roleOf e)) (acceptsAll_obliging (roleOf e)) c message isBinary s)
  intro r t hsend
  rcases hsend with ⟨hr, rfl, hmay⟩ | ⟨rfl, hmay, s₁, hpassed, rfl⟩
  · exact .inr ⟨hmay, hr, rfl⟩
  · obtain ⟨m, hm, hcontent, -⟩ := ofSent?_user (s.dataChannels c) (s.context c)
      (.ofBuffer message isBinary)
    have hsent := (Passed.accepted (c := c) hpassed hm rfl).sent
    -- one more item has been sent, and it is a message of this channel
    have hmore : ∀ c', (s₁.log (.messageAccepted c)).sentOn c' = s.sentOn c' ++
        (messagesOf Message.content c' [.message c m]).filterMap Message.content := by
      intro c'
      change (messagesOf Message.content c'
        ((s₁.log (.messageAccepted c)).outgoing.sent.map Prod.snd)).filterMap Message.content = _
      rw [hsent, List.map_append, messagesOf_append, List.filterMap_append]
      rfl
    refine .inl ⟨hmay, rfl, ?_, ?_, fun _ hitems => (hpassed.passes hitems).log rfl⟩
    · rw [hmore]
      simp [messagesOf, Item.messageOf, hcontent]
    · intro c' hc'
      rw [hmore]
      simp [messagesOf, Item.messageOf, hc'.symm]

omit [MessageBuffer] in
/-- The client sends on the channel that the server has accepted. Its message comes after the OPEN
    message. -/
theorem send_adds_accepted :
    ((@dataChannelSend listMessageBuffer 0 (some { data := [104, 105] }) true).run
      (accepted.ends .client).state).Always (obliging .client) fun r t =>
        r = .success ∧ t.sentOn 0 = [⟨[104, 105], true⟩] ∧
          t.Passes [.message (.spa (dcepSendInfo { sid := 0 })) 0 (openMessageBytes .plain),
            (accepted.ends .client).state.recordOf 0 ⟨[104, 105], true⟩] := by
  obtain ⟨hforwards, hsends⟩ := @Reached.send_adds listMessageBuffer accepted reached_accepted
    .client 0 (some { data := [104, 105] }) true
  have hmay : (accepted.ends .client).state.MaySend 0 ⟨[104, 105], true⟩ := ⟨rfl, .inl rfl⟩
  apply Prog.Always.mono hsends
  intro r t ht
  rcases ht with ⟨-, hr, hsent, -, hpasses⟩ | ⟨hnot, -⟩
  · exact ⟨hr, hsent, hpasses _ hforwards⟩
  · exact absurd hmay hnot

/-! ## Section 4: Results -/

/-- **Whatever the application is handed has been sent to it**, on the channel that belongs to the
    one it is handed on, and usrsctp is given as a whole and in order whatever has been sent. Nothing
    is handed over twice or lost and found again, and nothing on a channel of an ordered type is
    handed over out of order. -/
theorem Reached.handed_at_most_once (h : w.Reached) (e : Side) (c' : ChannelId) :
    (w.ends e.other).state.Forwards ∧ ((w.ends e).state.handedOn c' = [] ∨
      ∃ sid k c, (w.ends e).state.party.user sid k = some c' ∧
        (w.ends e.other).state.party.user sid k = some c ∧
        ((w.ends e).state.handedOn c' ++ w.underWayOn e.other sid c).Subperm
          ((w.ends e.other).state.sentOn c) ∧
        (((w.ends e.other).state.dataChannels c).parameters.channelType.isUnordered = false →
          ((w.ends e).state.handedOn c' ++ w.underWayOn e.other sid c).Sublist
            ((w.ends e.other).state.sentOn c))) := by
  refine ⟨h.forwards e.other, ?_⟩
  have hbalanced := h.attending_nobody.balanced
  by_cases hnothing : (w.ends e).state.handedOn c' = []
  · exact .inl hnothing
  · right
    obtain ⟨u, hu⟩ := List.exists_mem_of_ne_nil _ hnothing
    obtain ⟨sid, hmem⟩ := hbalanced.handed (mem_handedTo.mp hu)
    obtain ⟨k, hc'⟩ := Party.mem_users.mp hmem
    -- a channel that belongs to nobody could not have been handed anything
    cases hc : (w.ends e.other).state.party.user sid k with
    | none => exact absurd (hbalanced.nothing hc hc') hnothing
    | some c =>
      exact ⟨sid, k, c, hc', hc, hbalanced.at_most_once hc hc',
        fun htype => hbalanced.in_order hc hc' (h.ordered htype)⟩

/-- The server attends to the channel that it has accepted. -/
def attentive : Connection :=
  @enter listMessageBuffer accepted .server (.setMessageHandler 0 true)

/-- The client has sent a message on it. -/
def posted : Connection :=
  @enter listMessageBuffer attentive .client (.send 0 (some { data := [104, 105] }) true)

/-- The server is being handed the message. -/
def received : Connection :=
  @receive listMessageBuffer posted .server 0

omit [MessageBuffer] in
/-- The channel is attended: it has got a message handler before anything has been sent to it. -/
theorem reached_received :
    @ReachedAttending listMessageBuffer (fun e c => e = .server ∧ c = 0) received := by
  have hattended : ∀ w : Connection, (∀ sid, (w.ends .server).state.channels sid = some 0 →
      w.flight .client sid = [] ∨
        ((w.ends .server).state.dataChannels 0).handlers.messageHandler = true) →
      w.Attended fun e c => e = .server ∧ c = 0 := by
    rintro w hw e sid c ⟨rfl, rfl⟩ _ hslot hmore
    exact (hw sid hslot).resolve_left hmore
  have hcreated : @ReachedAttending listMessageBuffer (fun e c => e = .server ∧ c = 0) _ :=
    ⟨fun _ => false, fun _ => false, fun _ => false, fun _ => 1200, fun _ => 0, .refl⟩
  have hopening : @ReachedAttending listMessageBuffer _ opening :=
    @ReachedAttending.step listMessageBuffer _ _ _ hcreated (hattended _ fun _ _ => .inl rfl)
      (@step_enter listMessageBuffer _ .client (.create .plain {}) ⟨fun f hf => (by cases hf), rfl⟩)
  have haccepted : @ReachedAttending listMessageBuffer _ accepted :=
    @ReachedAttending.step listMessageBuffer _ _ _ hopening
      (hattended _ fun _ hslot => by cases hslot)
      (@step_receive listMessageBuffer opening .server 0 _ [] rfl rfl)
  -- the channel is on the first stream only, where nothing is under way to it
  have hquiet : accepted.Attended fun e c => e = .server ∧ c = 0 := by
    apply hattended
    intro sid hslot
    have hinv := @Reached.inv listMessageBuffer accepted reached_accepted
    have hsound := (@Inv.paused listMessageBuffer accepted hinv .server).inv.sound
    have hfirst : (accepted.ends .server).state.channels 0 = some 0 := rfl
    obtain rfl : sid = 0 := hsound.slot_unique hfirst hslot
    exact .inl rfl
  have hattentive : @ReachedAttending listMessageBuffer _ attentive :=
    @ReachedAttending.step listMessageBuffer _ _ _ haccepted hquiet
      (@step_enter listMessageBuffer accepted .server (.setMessageHandler 0 true)
        fun f hf => by cases hf)
  have hposted : @ReachedAttending listMessageBuffer _ posted :=
    @ReachedAttending.step listMessageBuffer _ _ _ hattentive (hattended _ fun _ _ => .inr rfl)
      (@step_enter listMessageBuffer attentive .client (.send 0 (some { data := [104, 105] }) true)
        fun f hf => by cases hf)
  exact @ReachedAttending.step listMessageBuffer _ _ _ hposted (hattended _ fun _ _ => .inr rfl)
    (@step_receive listMessageBuffer posted .server 0 _ [] rfl rfl)

omit [MessageBuffer] in
/-- The message has been handed over, and it is the one that has been sent. -/
theorem handed_at_most_once_received : (received.ends .client).state.Forwards ∧
    (received.ends .server).state.handedOn 0 = [⟨[104, 105], true⟩] ∧
      ∃ c, ((received.ends .server).state.handedOn 0).Subperm
        ((received.ends .client).state.sentOn c) := by
  have hhanded : (received.ends .server).state.handedOn 0 = [⟨[104, 105], true⟩] := rfl
  have hreached := @ReachedAttending.reached listMessageBuffer _ _ reached_received
  obtain ⟨hforwards, hall⟩ := @Reached.handed_at_most_once listMessageBuffer received hreached
    .server 0
  refine ⟨hforwards, hhanded, ?_⟩
  rcases hall with hnothing | ⟨sid, k, c, -, -, hsubperm, -⟩
  · rw [hnothing] at hhanded
    cases hhanded
  · exact ⟨c, (List.sublist_append_left _ _).subperm.trans hsubperm⟩

/-- **Everything that is sent on a channel of a reliable type is handed over exactly once** or still
    under way, if the channel that belongs to it has a message handler whenever something can be
    received. If the type is ordered, too, then it is handed over in the order in which it has been
    sent. In either case usrsctp is given it as a whole and in that order. -/
theorem ReachedAttending.handed_exactly_once (h : w.ReachedAttending attended)
    (hattended : attended e c') (hc : (w.ends e.other).state.party.user sid k = some c)
    (hc' : (w.ends e).state.party.user sid k = some c')
    (htype : ((w.ends e.other).state.dataChannels c).parameters.channelType.isReliable = true) :
    (w.ends e.other).state.Forwards ∧
      ((w.ends e).state.handedOn c' ++ w.underWayOn e.other sid c).Perm
        ((w.ends e.other).state.sentOn c) ∧
      (((w.ends e.other).state.dataChannels c).parameters.channelType.isUnordered = false →
        (w.ends e).state.handedOn c' ++ w.underWayOn e.other sid c =
          (w.ends e.other).state.sentOn c) := by
  have hperm := h.balanced.exactly_once hc hc' hattended (h.reached.lossless htype)
  refine ⟨h.reached.forwards e.other, hperm, fun hordered => ?_⟩
  have hsublist := h.balanced.in_order hc hc' (h.reached.ordered hordered)
  exact hsublist.eq_of_length hperm.length_eq

omit [MessageBuffer] in
/-- Nothing else has been sent, and nothing is missing. -/
theorem handed_exactly_once_received :
    (received.ends .server).state.handedOn 0 ++ received.underWayOn .client 0 0 =
      (received.ends .client).state.sentOn 0 :=
  (@ReachedAttending.handed_exactly_once listMessageBuffer (fun e c => e = .server ∧ c = 0) received
    .server 0 0 0 0 reached_received ⟨rfl, rfl⟩ rfl rfl rfl).2.2 rfl

end Connection

end Messages

end RawrtcDataChannel
