import RawrtcDataChannel.Peers.Growing

/-!
# Channels that are opened from both ends

Both endpoints open channels while OPEN messages of the other one are under way. They agree on the
streams and on the parameters. A channel sends no unordered messages before it knows of its
counterpart, so none of them can arrive where there is no channel yet.
-/

namespace RawrtcDataChannel

open Reentrant Streams

section Negotiation

variable [MessageBuffer] {w : Connection} {e : Side} {sid : Nat} {c : ChannelId} {m : Message}
  {received : List (Side × ChannelId × Message)}

/-- A message with this information has been given to usrsctp as a whole, or waits in the queue. -/
def Transport.Sends (t : Transport) (info : SendvSpa) : Prop :=
  (∃ flags bytes, .message (.spa info) flags bytes ∈ t.wire.items) ∨
    ∃ q ∈ t.bufferedMessagesOutgoing, q.context.info = .spa info

omit [MessageBuffer] in
/-- Whatever waits belongs to a message. -/
theorem Matches.exists_message {offset : Nat} {ms : List OutMessage} {queue : List BufferedMessage}
    (h : Matches offset ms queue) {q : BufferedMessage} (hq : q ∈ queue) :
    ∃ out ∈ ms, q.context = out.context := by
  induction queue generalizing offset ms with
  | nil => cases hq
  | cons q' queue ih =>
    cases ms with
    | nil => exact h.elim
    | cons out ms =>
      obtain ⟨-, -, hcontext, hrest⟩ := h
      rcases List.mem_cons.mp hq with rfl | hq
      · exact ⟨out, List.mem_cons_self, hcontext⟩
      · obtain ⟨out', hout', hcontext'⟩ := ih hrest hq
        exact ⟨out', List.mem_cons_of_mem _ hout', hcontext'⟩

omit [MessageBuffer] in
/-- Nothing is sent but the messages of channels. -/
theorem Transport.Forwards.sends {t : Transport} (h : t.Forwards) {info : SendvSpa}
    (hsends : t.Sends info) : ∃ c m, (info.sendvSndinfo.sndSid, .message c m) ∈ t.party.sent ∧
      m.info = info := by
  obtain ⟨offset, ms, hmatches, -, hitems⟩ := h
  have hitem : ∃ flags bytes, .message (.spa info) flags bytes ∈
      t.party.sent.filterMap wireItem? := by
    rw [hitems]
    rcases hsends with ⟨flags, bytes, hgiven⟩ | ⟨q, hq, hinfo⟩
    · exact ⟨flags, bytes, List.mem_append_left _ hgiven⟩
    · obtain ⟨out, hout, hcontext⟩ := hmatches.exists_message hq
      rw [hcontext] at hinfo
      refine ⟨out.flags, out.bytes, List.mem_append_right _ (List.mem_map.mpr ⟨out, hout, ?_⟩)⟩
      rw [OutMessage.wireItem, ← hinfo]
      rfl
  obtain ⟨flags, bytes, hmem⟩ := hitem
  obtain ⟨⟨sid, i⟩, hsent, hwire⟩ := List.mem_filterMap.mp hmem
  cases i with
  | message c m =>
    cases hwire
    have hsid := Outgoing.onStreams_ofHistory t.history hsent
    exact ⟨c, m, hsid ▸ hsent, rfl⟩
  | reset => cases hwire
  | response => cases hwire

namespace Connection

/-! ## Section 1: Agreement -/

/-- The streams of the channels that an endpoint has created, one for each OPEN message that it has
    sent. -/
def creations (w : Connection) (e : Side) : List Nat :=
  (w.ends e).state.party.proposed

/-- The endpoints agree on which streams are in use, and on what for. -/
structure NegotiationAgrees (w : Connection) : Prop where
  /-- An OPEN message that is received is neither refused for its parity nor for an occupied slot.
      A channel is registered with the parameters in it. -/
  accepts : ∀ ⦃e sid c m pre post parameters⦄, (w.ends e).stack = [] →
    w.flight e.other sid = pre ++ .message c m :: post →
    (∀ i' ∈ pre, (Item.message c m).Overtakes i') → m.isDcep = true →
    openParameters m.bytes = some parameters →
    peerParity (roleOf e) sid = true ∧ (w.ends e).state.channels sid = none ∧
      ∀ d, Takes e sid (.message c m) (w.ends e) d → ∃ c', d.state.channels sid = some c' ∧
        (d.state.dataChannels c').parameters.terms = parameters.terms
  /-- No two creations get the same stream. -/
  apart : (w.creations .client ++ w.creations .server).Nodup
  /-- What has been created is registered, on a stream of the endpoint. -/
  registered : ∀ ⦃e sid⦄, sid ∈ w.creations e →
    openerOf sid = e ∧ (w.ends e).state.channels sid ≠ none
  /-- What is registered has been created by exactly one of them. -/
  created : ∀ ⦃e sid⦄, (w.ends e).state.channels sid ≠ none →
    ∃ e', sid ∈ w.creations e' ∧ sid ∉ w.creations e'.other
  agree : ∀ ⦃sid c c'⦄, (w.ends .client).state.channels sid = some c →
    (w.ends .server).state.channels sid = some c' →
    ((w.ends .client).state.dataChannels c).parameters.terms =
      ((w.ends .server).state.dataChannels c').parameters.terms
  /-- With nothing under way, the same streams are registered at both ends. -/
  equal : ∀ ⦃sid⦄, (∀ e, w.flight e sid = []) →
    ((w.ends .client).state.channels sid = none ↔ (w.ends .server).state.channels sid = none)
  /-- What either end has sent is what usrsctp has been given and what waits in the queue. -/
  forwards : ∀ e, (w.ends e).state.Forwards

omit [MessageBuffer] in
theorem streams_ne_none_iff : (w.net.party e).streams sid ≠ none ↔
    (w.ends e).state.channels sid ≠ none :=
  not_congr Option.map_eq_none_iff

/-- **The endpoints agree**, in whatever order they create channels and in whatever order messages
    are delivered. -/
theorem Grown.negotiation_agrees (h : Grown received w) : w.NegotiationAgrees where
  accepts e sid c m pre post parameters hidle hflight hpre hdcep hparse := by
    have hgrowth := h.growth
    have hproposal : Vocabulary.proposal m ≠ none := by
      simp [proposal_of_open hdcep hparse]
    obtain ⟨hopener, hfree, -⟩ := hgrowth.net.accepts hflight hpre hproposal
      fun j r _ hj => ((hgrowth.paused e).idle hidle).settled rfl trivial hj
    refine ⟨peerParity_roleOf hopener, Option.map_eq_none_iff.mp hfree, fun d hreceives => ?_⟩
    obtain ⟨-, -, -, c', -, -, hc', -⟩ := opens hgrowth.net hgrowth.paused hidle hflight hpre hdcep
      hparse hreceives
    exact ⟨c', hc'⟩
  apart := h.growth.steady.proposed_apart .client
  registered e sid hsid := by
    obtain ⟨hopener, hslot⟩ := h.growth.steady.holds hsid
    exact ⟨hopener, streams_ne_none_iff.mp hslot⟩
  created e sid hsid := ⟨openerOf sid, h.growth.steady.opened_once (streams_ne_none_iff.mpr hsid)⟩
  agree sid c c' hc hc' :=
    h.growth.steady.agree h.growth.net (e := .client) (Transport.streams_party hc)
      (Transport.streams_party hc')
  equal sid hflight := by
    have hsame := h.growth.steady.same_ends h.growth.net (e := .client) hflight
    exact not_iff_not.mp (streams_ne_none_iff.symm.trans
      ((not_congr hsame).trans streams_ne_none_iff))
  forwards := h.growth.forwards

/-- Both endpoints have created a channel, before either of them has received anything. -/
def crossing : Connection :=
  @enter listMessageBuffer opening .server (.create .plain {})

/-- The OPEN messages have been received. -/
def crossed : Connection :=
  @receive listMessageBuffer (@receive listMessageBuffer crossing .server 0) .client 1

/-- So have the ACK messages. -/
def negotiated : Connection :=
  @receive listMessageBuffer (@receive listMessageBuffer crossed .client 0) .server 1

omit [MessageBuffer] in
theorem grown_opening : @Grown listMessageBuffer [] opening :=
  @Grown.enter listMessageBuffer _ .client [] (@Grown.created listMessageBuffer _ _ _ _ _)
    (.create .plain {}) ⟨fun f hf => (by cases hf), rfl⟩ fun _ => id

omit [MessageBuffer] in
theorem grown_negotiated : ∃ received, @Grown listMessageBuffer received negotiated := by
  have hcrossing : @Grown listMessageBuffer [] crossing :=
    @Grown.enter listMessageBuffer _ .server [] grown_opening (.create .plain {})
      ⟨fun f hf => (by cases hf), rfl⟩ fun _ => id
  have hserver := @Grown.receive listMessageBuffer crossing .server 0 _ _ _ [] hcrossing rfl rfl rfl
  have hclient := @Grown.receive listMessageBuffer _ .client 1 _ _ _ _ hserver rfl rfl rfl
  have hclient' := @Grown.receive listMessageBuffer _ .client 0 _ _ _ _ hclient rfl rfl rfl
  exact ⟨_, @Grown.receive listMessageBuffer _ .server 1 _ _ _ _ hclient' rfl rfl rfl⟩

omit [MessageBuffer] in
/-- Each endpoint has got a stream of its own, and both streams are registered at both ends. -/
theorem negotiation_agrees_negotiated : negotiated.creations .client = [0] ∧
    negotiated.creations .server = [1] ∧ @NegotiationAgrees listMessageBuffer negotiated := by
  obtain ⟨received, hgrown⟩ := grown_negotiated
  exact ⟨rfl, rfl, @Grown.negotiation_agrees listMessageBuffer negotiated received hgrown⟩

/-! ## Section 2: Unordered messages -/

/-- Unordered messages do not overtake the opening of a channel. Of these messages something has
    been received so far, on these channels. -/
structure OpensFirst (received : List (Side × ChannelId × Message)) (w : Connection) : Prop where
  /-- DCEP messages are sent ordered and without a policy of partial reliability. -/
  dcep : ∀ ⦃e info⦄, (w.ends e).state.Sends info → info.sendvSndinfo.sndPpid = ppidDcep →
    info.sendvSndinfo.unordered = false ∧ info.prinfoValid = false
  /-- Unordered messages are those of a channel of an unordered type on this stream, which has
      acknowledged an OPEN message or has received something that is none. -/
  unordered : ∀ ⦃e info⦄, (w.ends e).state.Sends info → info.sendvSndinfo.unordered = true →
    ∃ c, (w.ends e).state.streamId c = some info.sendvSndinfo.sndSid ∧
      ((w.ends e).state.dataChannels c).parameters.channelType.isUnordered = true ∧
      w.Knows received e c
  /-- A message of the application that may be received, or any part of it, finds a channel. -/
  finds : ∀ ⦃e sid c m pre post⦄, w.flight e.other sid = pre ++ .message c m :: post →
    (∀ i' ∈ pre, (Item.message c m).Overtakes i') → m.isDcep = false →
    ∃ c', (w.ends e).state.channels sid = some c'
  /-- Whatever either end has sent has been given to usrsctp or waits in the queue. -/
  forwards : ∀ e, (w.ends e).state.Forwards

/-- **No unordered message overtakes the opening of its channel**, in whatever order channels are
    created and messages are sent and delivered. -/
theorem Grown.opens_first (h : Grown received w) : w.OpensFirst received where
  dcep e info hsends hppid := by
    obtain ⟨c, m, -, rfl⟩ := (h.growth.forwards e).sends hsends
    obtain ⟨hordered, hreliable, -⟩ := m.dcep hppid
    exact ⟨hordered, hreliable⟩
  unordered e info hsends hunordered := by
    have hsound := (h.growth.paused e).inv.sound
    obtain ⟨c, m, hsent, rfl⟩ := hsound.forwards.sends hsends
    obtain ⟨hsid, hallow⟩ := hsound.sent hsent
    have hknows : w.net.Knows received e c := (h.growth.mindful e).sent hsent hunordered
    exact ⟨c, hsid, hallow.unordered hunordered, knows_of_net hknows⟩
  finds e sid c m pre post hflight hpre huser := (h.growth.finds hflight hpre huser).2
  forwards := h.growth.forwards

/-- A message that is sent unordered on the first stream. -/
def unorderedMessage : Message :=
  ⟨{ sendvSndinfo := { sndSid := 0, sndPpid := ppidBinary, eor := true, unordered := true } },
    [104, 105], fun h => absurd h (by decide), fun _ => rfl⟩

/-- The client has created a channel of an unordered type. -/
def proposing : Connection :=
  @enter listMessageBuffer (created (fun _ => false) (fun _ => false) (fun _ => false)
    (fun _ => 1200) fun _ => 0) .client
      (.create (.ofFields none .reliableUnordered 0 none false 0) {})

/-- The server has accepted it and has sent a message at once. -/
def answering : Connection :=
  @enter listMessageBuffer (@receive listMessageBuffer proposing .server 0) .server
    (.send 0 (some { data := [104, 105] }) true)

/-- The message has overtaken the ACK message, and the client has sent one, too. -/
def overtaken : Connection :=
  @enter listMessageBuffer (@receiveEnd listMessageBuffer answering .client 0 0 unorderedMessage
    ((answering.flight .server 0).take 1) [104, 105]) .client
      (.send 0 (some { data := [104, 105] }) true)

omit [MessageBuffer] in
theorem grown_overtaken : ∃ received, @Grown listMessageBuffer received overtaken := by
  have hproposing : @Grown listMessageBuffer [] proposing :=
    @Grown.enter listMessageBuffer _ .client [] (@Grown.created listMessageBuffer _ _ _ _ _)
      (.create (.ofFields none .reliableUnordered 0 none false 0) {})
      ⟨fun f hf => (by cases hf), rfl⟩ fun _ => id
  have haccepted := @Grown.receive listMessageBuffer proposing .server 0 _ _ _ [] hproposing rfl
    rfl rfl
  have hanswering : @Grown listMessageBuffer _ answering :=
    @Grown.enter listMessageBuffer _ .server _ haccepted
      (.send 0 (some { data := [104, 105] }) true) (fun f hf => by cases hf) trivial
  -- the client has the whole message, while the ACK message is still under way
  have hahead := @Grown.receiveEnd listMessageBuffer answering .client 0 0 unorderedMessage
    ((answering.flight .server 0).take 1) [] [104, 105] _ hanswering rfl rfl
    (fun i' hi' => by
      obtain rfl := List.mem_singleton.mp hi'
      exact .inl rfl) rfl
  exact ⟨_, @Grown.enter listMessageBuffer _ .client _ hahead
    (.send 0 (some { data := [104, 105] }) true) (fun f hf => by cases hf) trivial⟩

omit [MessageBuffer] in
/-- The client sends unordered although the ACK message is still under way. -/
theorem opens_first_overtaken : ∃ received,
    ((overtaken.flight .server 0).length = 1 ∧
      (overtaken.ends .client).state.Sends unorderedMessage.info) ∧
    OpensFirst received overtaken := by
  obtain ⟨received, hgrown⟩ := grown_overtaken
  refine ⟨received, ⟨rfl, .inl ⟨0, [104, 105], ?_⟩⟩,
    @Grown.opens_first listMessageBuffer overtaken received hgrown⟩
  exact List.mem_of_getLast? rfl

end Connection

end Negotiation

end RawrtcDataChannel
