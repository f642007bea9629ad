import RawrtcDataChannel.Peers.System

/-!
# What two connected transports agree on

What holds in every state that two connected transports can reach, in terms of the transports.
Channels that the peer opens are always accepted, with the parameters they were opened with.
Messages and resets find the channel they are meant for, however often the stream has been used
before. Streams do not stay in use at one end only.
-/

namespace RawrtcDataChannel

open Reentrant Streams

section Agreement

variable [MessageBuffer] {w : Connection} {e : Side} {sid : Nat} {c : ChannelId} {m : Message}
  {i : Item ChannelId Message} {pre post : List (Item ChannelId Message)}

/-! ## Section 1: Reading off transports -/

omit [MessageBuffer] in
/-- What an OPEN message proposes. -/
theorem proposal_of_open {parameters : DataChannelParameters} (hdcep : m.isDcep = true)
    (hparse : openParameters m.bytes = some parameters) :
    Vocabulary.proposal m = some parameters.terms := by
  change (if m.isDcep = true then _ else _) = _
  rw [if_pos hdcep, hparse]
  rfl

omit [MessageBuffer] in
/-- Any other message proposes nothing. -/
theorem proposal_eq_none (h : m.isDcep = true → openParameters m.bytes = none) :
    Vocabulary.proposal m = none := by
  change (if m.isDcep = true then _ else _) = _
  split
  · next hdcep => rw [h hdcep, Option.map_none]
  · rfl

omit [MessageBuffer] in
/-- The first message of a channel that proposes nothing is an ACK message. -/
theorem bytes_of_greets (h : Vocabulary.greets m = true) (hm : Vocabulary.proposal m = none) :
    m.bytes = [dcepMessageTypeAck] := by
  change m.isDcep = true at h
  change (if m.isDcep = true then _ else _) = _ at hm
  rw [if_pos h, Option.map_eq_none_iff] at hm
  rcases (m.dcep (by simpa [Message.isDcep] using h)).2.2 with hopen | hack
  · rw [hm] at hopen
    cases hopen
  · exact hack

omit [MessageBuffer] in
/-- DCEP messages are always received as a whole. -/
theorem readsWhole_of_dcep {S : Setting} (h : m.isDcep = true) : ReadsWhole S (.message c m) := by
  intro c' m' heq huser
  cases heq
  rw [h] at huser
  cases huser

omit [MessageBuffer] in
theorem slot_of_streams {t : Transport} {r : Occupant ChannelId Terms}
    (h : t.party.streams sid = some r) :
    t.channels sid = some r.channel ∧ r = t.occupant r.channel := by
  obtain ⟨c, hc, rfl⟩ := Option.map_eq_some_iff.mp h
  exact ⟨hc, rfl⟩

/-- The OPEN message that announces it on the first stream. -/
def Message.plainOpen : Message :=
  ⟨dcepSendInfo { sid := 0 }, openMessageBytes .plain, fun _ => ⟨rfl, rfl, .inl rfl⟩,
    fun h => absurd rfl h⟩

namespace Connection

/-! ## Section 2: Refinement -/

/-- **Two connected transports refine the net of two parties.** Each step is one of the net, which
    was vacant at first. -/
theorem Reached.refines (h : w.Reached) :
    (∃ N : Net ChannelId Terms Message, N.Vacant ∧
      Relation.ReflTransGen (Net.Step openerOf) N w.net) ∧
    ∀ w', Step w w' → Net.Step openerOf w.net w'.net := by
  refine ⟨?_, fun w' hstep => (h.inv.step (attended_none w) hstep).1.net⟩
  obtain ⟨dataChannelHandler, destroyedHandler, traceHandle, usrsctpChunkSize, maxMessageSize,
    hsteps⟩ := h
  refine ⟨(created dataChannelHandler destroyedHandler traceHandle usrsctpChunkSize
    maxMessageSize).net, vacant_created _ _ _ _ _, ?_⟩
  induction hsteps with
  | refl => exact .refl
  | tail hsteps hstep ih =>
    have hreached : Reached _ := ⟨_, _, _, _, _, hsteps⟩
    exact ih.tail (hreached.inv.step (attended_none _) hstep).1.net

/-- The client has opened a channel. -/
def opening : Connection :=
  @enter listMessageBuffer (created (fun _ => false) (fun _ => false) (fun _ => false)
    (fun _ => 1200) fun _ => 0) .client (.create .plain {})

/-- The server has accepted it. -/
def accepted : Connection :=
  @receive listMessageBuffer opening .server 0

omit [MessageBuffer] in
theorem reached_opening : @Reached listMessageBuffer opening :=
  @Reached.enter listMessageBuffer _ ⟨_, _, _, _, _, .refl⟩ .client (.create .plain {})
    ⟨fun f hf => (by cases hf), rfl⟩

omit [MessageBuffer] in
theorem reached_accepted : @Reached listMessageBuffer accepted :=
  @Reached.receive listMessageBuffer _ reached_opening _ _ rfl

omit [MessageBuffer] in
theorem refines_accepted : ∃ N : Net ChannelId Terms Message, N.Vacant ∧
    Relation.ReflTransGen (Net.Step openerOf) N accepted.net :=
  (@Reached.refines listMessageBuffer accepted reached_accepted).1

/-! ## Section 3: Opening -/

/-- An OPEN message that may be received is accepted. -/
theorem opens {S : Setting} {may : Side → Freedom} (hnet : w.net.Inv openerOf)
    (hpaused : ∀ e, Paused S e (may e) (w.ends e)) (hidle : (w.ends e).stack = [])
    (hflight : w.flight e.other sid = pre ++ .message c m :: post)
    (hpre : ∀ i' ∈ pre, (Item.message c m).Overtakes i') (hdcep : m.isDcep = true)
    {parameters : DataChannelParameters} (hparse : openParameters m.bytes = some parameters)
    {d : Config Call Op Op.Reply Transport Result}
    (hreceives : Takes e sid (.message c m) (w.ends e) d) :
    (w.ends e).state.channels sid = none ∧ openerOf sid = e.other ∧
      ((w.ends e.other).state.channels sid = some c ∧
        ((w.ends e.other).state.dataChannels c).parameters.terms = parameters.terms) ∧
      ∃ c' ack out, (d.state.channels sid = some c' ∧
          (d.state.dataChannels c').parameters.terms = parameters.terms) ∧
        ack.bytes = [dcepMessageTypeAck] ∧
        d.state.party.sent = (w.ends e).state.party.sent ++ (sid, .message c' ack) :: out := by
  have hm := proposal_of_open hdcep hparse
  have hproposal : Vocabulary.proposal m ≠ none := by simp [hm]
  have hendpoint := (hpaused e).idle hidle
  obtain ⟨hopener, hfree, r, hr, rfl, hterms⟩ := hnet.accepts hflight hpre hproposal
    fun j r _ hj => hendpoint.settled rfl trivial hj
  obtain ⟨hc, hoccupant⟩ := slot_of_streams hr
  rw [hm, hoccupant] at hterms
  refine ⟨Option.map_eq_none_iff.mp hfree, hopener, ⟨hc, (Option.some.inj hterms).symm⟩, ?_⟩
  -- the channel may not give up its end before it has been asked to
  obtain ⟨⟨⟨p, hreacts, hmoves⟩, -⟩, -⟩ := (hpaused e).receives hidle
    (readsWhole_of_dcep hdcep) (expected hnet hpaused hidle hflight hpre) hreceives
  cases hreacts with
  | hear _ _ _ _ _ hnone => exact absurd hnone hproposal
  | accept _ c' _ _ ack terms unordered _ _ hm' hack hgreets =>
    obtain ⟨r', hr', hchannel, hsame, -⟩ := hmoves.keeps (Party.streams_put_self _ _ _ _) rfl
    obtain ⟨out, hsent⟩ := hmoves.sent
    obtain ⟨hc', hoccupant'⟩ := slot_of_streams hr'
    rw [hm] at hm'
    rw [hoccupant'] at hsame
    refine ⟨r'.channel, ack, out, ⟨hc', hsame.trans (Option.some.inj hm').symm⟩,
      bytes_of_greets hgreets hack, ?_⟩
    rw [hsent, hchannel]
    simp [Party.put]

/-- **A channel that the peer opens is accepted**, with the parameters it was opened with. The first
    thing it sends is an ACK message. -/
theorem Reached.open_accepted (h : w.Reached) (hidle : (w.ends e).stack = [])
    (hflight : w.flight e.other sid = pre ++ .message c m :: post)
    (hpre : ∀ i' ∈ pre, (Item.message c m).Overtakes i') (hdcep : m.isDcep = true)
    {parameters : DataChannelParameters} (hparse : openParameters m.bytes = some parameters)
    {d : Config Call Op Op.Reply Transport Result}
    (hreceives : Takes e sid (.message c m) (w.ends e) d) :
    (w.ends e).state.channels sid = none ∧ openerOf sid = e.other ∧
      ((w.ends e.other).state.channels sid = some c ∧
        ((w.ends e.other).state.dataChannels c).parameters.terms = parameters.terms) ∧
      ∃ c' ack out, (d.state.channels sid = some c' ∧
          (d.state.dataChannels c').parameters.terms = parameters.terms) ∧
        ack.bytes = [dcepMessageTypeAck] ∧
        d.state.party.sent = (w.ends e).state.party.sent ++ (sid, .message c' ack) :: out :=
  opens h.inv.net h.inv.paused hidle hflight hpre hdcep hparse hreceives

omit [MessageBuffer] in
/-- The first channel is accepted. -/
theorem open_accepted_first : ∃ c', (accepted.ends .server).state.channels 0 = some c' ∧
    ((accepted.ends .server).state.dataChannels c').parameters.terms =
      DataChannelParameters.plain.terms := by
  obtain ⟨-, -, -, c', -, -, hc', -⟩ := @Reached.open_accepted listMessageBuffer opening .server 0 0
    .plainOpen [] [] reached_opening rfl rfl (by simp) rfl .plain (by decide +kernel) _
    (@receives_enter listMessageBuffer opening .server 0 (.message 0 .plainOpen) rfl)
  exact ⟨c', hc'⟩

/-! ## Section 4: Agreement -/

/-- **The two channels on a stream agree** on everything that is announced, unless the peer of the
    opener is still leaving a channel of an earlier use of the stream. -/
theorem Reached.channels_agree (h : w.Reached) {c' : ChannelId}
    (hc : (w.ends (openerOf sid)).state.channels sid = some c)
    (hc' : (w.ends (openerOf sid).other).state.channels sid = some c')
    (hin : ((w.ends (openerOf sid).other).state.dataChannels c').flags.incomingStreamReset =
      false) :
    ((w.ends (openerOf sid)).state.dataChannels c).parameters.terms =
      ((w.ends (openerOf sid).other).state.dataChannels c').parameters.terms :=
  h.inv.net.agree rfl (Transport.streams_party hc) (Transport.streams_party hc') hin

omit [MessageBuffer] in
theorem channels_agree_accepted : ((accepted.ends .client).state.dataChannels 0).parameters.terms =
    ((accepted.ends .server).state.dataChannels 0).parameters.terms :=
  @Reached.channels_agree listMessageBuffer accepted 0 0 reached_accepted 0 rfl rfl rfl

/-! ## Section 5: Messages and resets -/

/-- **A message finds the channel that it was sent to**: the one that is the peer of its sender.
    Both have been the last ones on the stream, and equally many have been there before. -/
theorem Reached.message_finds_channel (h : w.Reached)
    (hflight : w.flight e.other sid = pre ++ .message c m :: post)
    (hpre : ∀ i' ∈ pre, (Item.message c m).Overtakes i')
    (hm : m.isDcep = true → openParameters m.bytes = none) :
    (w.ends e.other).state.channels sid = some c ∧
      ∃ c', (w.ends e).state.channels sid = some c' ∧
        ((w.ends e).state.dataChannels c').parameters.terms =
          ((w.ends e.other).state.dataChannels c).parameters.terms ∧
        (m.info.sendvSndinfo.unordered = true →
          ((w.ends e).state.dataChannels c').parameters.channelType.isUnordered = true) ∧
        ∃ before before', (w.ends e).state.party.users sid = before ++ [c'] ∧
          (w.ends e.other).state.party.users sid = before' ++ [c] ∧
          before.length = before'.length := by
  -- both ends of the stream are taken, which is all about the net that is needed
  obtain ⟨r, y, hr, hy, hsent, hterms, hrelaxed, hrounds⟩ :=
    h.inv.net.hears hflight hpre (proposal_eq_none hm)
  obtain ⟨hc', hr'⟩ := slot_of_streams hr
  obtain ⟨hc, hy'⟩ := slot_of_streams hy
  subst hsent
  refine ⟨hc, r.channel, hc', ?_, ?_, hrounds⟩
  · rw [hr', hy'] at hterms
    exact hterms
  · intro hunordered
    have hrelaxed' := hrelaxed hunordered
    rw [← hterms, hr'] at hrelaxed'
    exact hrelaxed'

/-- The client has sent a message on the channel that the server has accepted. -/
def greeting : Connection :=
  @enter listMessageBuffer accepted .client (.send 0 (some { data := [104, 105] }) true)

omit [MessageBuffer] in
theorem reached_greeting : @Reached listMessageBuffer greeting :=
  @Reached.enter listMessageBuffer _ reached_accepted .client _ fun f hf => by cases hf

omit [MessageBuffer] in
theorem message_finds_channel_greeting : ∃ c' before before',
    (greeting.ends .server).state.channels 0 = some c' ∧
    (greeting.ends .server).state.party.users 0 = before ++ [c'] ∧
    (greeting.ends .client).state.party.users 0 = before' ++ [0] ∧
    before.length = before'.length := by
  let m : Message := ⟨{ sendvSndinfo := { sndSid := 0, sndPpid := ppidBinary, eor := true } },
    [104, 105], fun h => absurd h (by decide), fun _ => rfl⟩
  obtain ⟨-, c', hc', -, -, before, before', husers, husers', hlength⟩ :=
    @Reached.message_finds_channel listMessageBuffer greeting .server 0 0 m [] [] reached_greeting
      rfl (by simp) (fun h => absurd h (by decide))
  exact ⟨c', before, before', hc', husers, husers', hlength⟩

/-- **A reset finds the channel that it is for**: a request one that has not been asked yet, and an
    answer one that has asked and not been answered yet. -/
theorem Reached.reset_finds_channel (h : w.Reached)
    (hflight : w.flight e.other sid = pre ++ i :: post)
    (hpre : ∀ i' ∈ pre, i.Overtakes i') :
    (i = .reset → ∃ c, (w.ends e).state.channels sid = some c ∧
      ((w.ends e).state.dataChannels c).flags.incomingStreamReset = false) ∧
    (i = .response → ∃ c, (w.ends e).state.channels sid = some c ∧
      (w.ends e).state.resetRequested c = true ∧
      ((w.ends e).state.dataChannels c).flags.outgoingStreamReset = false) := by
  constructor
  · intro hi
    subst hi
    obtain ⟨r, hr, hin⟩ := h.inv.net.asks hflight hpre
    obtain ⟨hc, hr'⟩ := slot_of_streams hr
    rw [hr'] at hin
    exact ⟨r.channel, hc, hin⟩
  · intro hi
    subst hi
    obtain ⟨r, hr, hrequested, hout⟩ := h.inv.net.answers hflight
    obtain ⟨hc, hr'⟩ := slot_of_streams hr
    rw [hr'] at hrequested hout
    exact ⟨r.channel, hc, hrequested, hout⟩

/-- The client has closed the channel. -/
def closing : Connection :=
  @enter listMessageBuffer accepted .client (.close 0)

omit [MessageBuffer] in
theorem reached_closing : @Reached listMessageBuffer closing :=
  @Reached.enter listMessageBuffer _ reached_accepted .client _
    ⟨fun f hf => (by cases hf), fun b hb => by cases hb⟩

omit [MessageBuffer] in
theorem reset_finds_channel_closing : ∃ c, (closing.ends .server).state.channels 0 = some c ∧
    ((closing.ends .server).state.dataChannels c).flags.incomingStreamReset = false :=
  (@Reached.reset_finds_channel listMessageBuffer closing .server 0 .reset [] [] reached_closing rfl
    (by simp)).1 rfl

/-! ## Section 6: Quiet streams -/

/-- A channel that leaves has asked for the reset of its stream, or will do so when the queue is
    empty. -/
theorem Reached.requested (h : w.Reached) (hidle : (w.ends e).stack = [])
    (hslot : (w.ends e).state.channels sid = some c)
    (hleaving : ((w.ends e).state.dataChannels c).state.stage = .leaving)
    (hpending : ((w.ends e).state.context c).flags.pendingStreamReset = false) :
    (w.ends e).state.resetRequested c = true := by
  obtain ⟨_, _, _, _, hreach⟩ := h.inv.reachable e
  have hcontract := reachable_inv (fun _ _ _ => id) (create_inv _ _ _ _ _) hreach
  rw [hidle] at hcontract
  have hslots := hcontract.1.slots
  rcases leaving_iff.mp hleaving with hclosing | hclosed
  · rcases hslots.reset hslot hclosing with hpending' | ⟨j, hreset⟩
    · change ((w.ends e).state.context c).flags.pendingStreamReset = true at hpending'
      rw [hpending] at hpending'
      cases hpending'
    · apply List.any_eq_true.mpr
      exact ⟨_, hreset, by simp [Event.requestsReset]⟩
  · -- with no handler running, closed channels have left their slots
    obtain ⟨a, ha⟩ := hslots.closed hslot hclosed
    cases ha

/-- **No stream stays in use at one end only.** With nothing under way on a stream, no handler
    running and no reset postponed, it is free at both ends, or there is an open channel at both
    ends, on the same terms. -/
theorem Reached.free_or_open (h : w.Reached) (hidle : ∀ e, (w.ends e).stack = [])
    (hflight : ∀ e, w.flight e sid = [])
    (hpending : ∀ e c, (w.ends e).state.channels sid = some c →
      ((w.ends e).state.context c).flags.pendingStreamReset = false) (e : Side) :
    (w.ends e).state.channels sid = none ∧ (w.ends e.other).state.channels sid = none ∨
      ∃ c c', ((w.ends e).state.channels sid = some c ∧
          ((w.ends e).state.dataChannels c).state = .opened) ∧
        ((w.ends e.other).state.channels sid = some c' ∧
          ((w.ends e.other).state.dataChannels c').state = .opened) ∧
        ((w.ends e).state.dataChannels c).parameters.terms =
          ((w.ends e.other).state.dataChannels c').parameters.terms := by
  -- at an end where no handler runs, every step that is due has been taken
  have hdone : ∀ e r, (w.net.party e).streams sid = some r →
      r.Settled ∧ (r.stage = .leaving → r.requested = true) := by
    intro e r hr
    obtain ⟨hslot, hr'⟩ := slot_of_streams hr
    refine ⟨((h.inv.paused e).idle (hidle e)).settled rfl trivial hr, ?_⟩
    rw [hr']
    exact fun hleaving => h.requested (hidle e) hslot hleaving (hpending e _ hslot)
  rcases h.inv.net.quiet hflight hdone e with ⟨hr, hy⟩ | ⟨r, y, hr, hy, hterms, hrstage, hystage⟩
  · exact .inl ⟨Option.map_eq_none_iff.mp hr, Option.map_eq_none_iff.mp hy⟩
  · obtain ⟨hc, hr'⟩ := slot_of_streams hr
    obtain ⟨hc', hy'⟩ := slot_of_streams hy
    rw [hr'] at hrstage
    rw [hy'] at hystage
    rw [hr', hy'] at hterms
    exact .inr ⟨r.channel, y.channel, ⟨hc, opened_iff.mp hrstage⟩, ⟨hc', opened_iff.mp hystage⟩,
      hterms⟩

/-- The client knows that the channel has been accepted. -/
def settled : Connection :=
  @receive listMessageBuffer accepted .client 0

omit [MessageBuffer] in
theorem reached_settled : @Reached listMessageBuffer settled :=
  @Reached.receive listMessageBuffer _ reached_accepted _ _ rfl

omit [MessageBuffer] in
theorem free_or_open_settled :
    (settled.ends .client).state.channels 0 = none ∧
        (settled.ends .server).state.channels 0 = none ∨
      ∃ c c', ((settled.ends .client).state.channels 0 = some c ∧
          ((settled.ends .client).state.dataChannels c).state = .opened) ∧
        ((settled.ends .server).state.channels 0 = some c' ∧
          ((settled.ends .server).state.dataChannels c').state = .opened) ∧
        ((settled.ends .client).state.dataChannels c).parameters.terms =
          ((settled.ends .server).state.dataChannels c').parameters.terms := by
  apply @Reached.free_or_open listMessageBuffer settled 0 reached_settled
  · intro e
    cases e <;> rfl
  · intro e
    cases e <;> rfl
  · intro e c hc
    cases e <;> obtain rfl : 0 = c := Option.some.inj hc <;> rfl

end Connection

end Agreement

end RawrtcDataChannel
