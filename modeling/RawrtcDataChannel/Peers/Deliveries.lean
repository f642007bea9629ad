import RawrtcDataChannel.Peers.Routines

/-!
# What an endpoint does when something reaches it

A message, a reset of a stream, or the answer to one reaches an idle endpoint. What its event loop
does then begins with a reaction of the party. The content of a message is handed over to the
application. The handlers that are called afterwards act, and in the end the endpoint opens the
channel that has been announced, or gives up the slot of one that is closed.
-/

namespace RawrtcDataChannel

open Reentrant Streams Transport

/-- What the event loop reads when an item reaches the transport. -/
def reads (sid : Nat) : Item ChannelId Message → Call
  | .message _ m => .readEvent (.data m.bytes (some ⟨sid, m.info.sendvSndinfo.sndPpid⟩) true)
  | .reset => .readEvent (.notification 0 0
      (.streamReset { incomingSsn := true, strresetStreamList := [sid] }))
  | .response => .readEvent (.notification 0 0
      (.streamReset { outgoingSsn := true, strresetStreamList := [sid] }))

/-- What is handed over when an item reaches the transport: the content of a message, if its channel
    has a message handler. -/
def Transport.offers (s : Transport) (sid : Nat) :
    Item ChannelId Message → List (ChannelId × UserMessage)
  | .message _ m =>
    match s.channels sid, m.content with
    | some c, some u => if (s.dataChannels c).handlers.messageHandler then [(c, u)] else []
    | _, _ => []
  | .reset | .response => []

/-- Without a content there is nothing to hand over. -/
theorem offers_of_content_none (s : Transport) (sid : Nat) (c : ChannelId) {m : Message}
    (hm : m.content = none) : s.offers sid (.message c m) = [] := by
  cases hslot : s.channels sid <;> simp [Transport.offers, hslot, hm]

/-- The promise for the first stretch: the party reacts and moves, and `out` is handed over. -/
def Delivered (may : Freedom) (sid : Nat) (i : Item ChannelId Message)
    (out : List (ChannelId × UserMessage)) (s s' : Transport) : Prop :=
  (∃ p, Party.Reacts sid i s.party p ∧ Party.Moves may p s'.party) ∧
    s'.handed = s.handed ++ out

section Deliveries

variable {S : Setting} {e : Side} {may : Freedom} {a : Call} {fs : List (Call × Op)}
  {ends : Nat → Prop} {reception : Reception} {dcep : Option Mbuf} {busy : Option ChannelId}
  {K : Transport → Prop} {s s' : Transport} {c : ChannelId} {sid : Nat} {p : Standing}

/-! ## Section 1: Moves -/

/-- An endpoint with no handler running. -/
structure AtRest (S : Setting) (dcep : Option Mbuf) (s : Transport) : Prop where
  sound : Sound S.nStreams s
  announced : Announced [] s
  settled : s.party.SettledAt fun _ => True
  dcep : s.bufferDcepInbound = dcep
  buffers : S.whole → ∀ c, (s.context c).bufferInbound = none

theorem Endpoint.idle (h : Endpoint S [] s) : AtRest S none s :=
  ⟨h.sound, h.announced, h.settled rfl, h.dcep rfl, fun hwhole => h.buffers hwhole rfl⟩

theorem AtRest.unseen (h : AtRest S dcep s) (hstep : Unseen s s') : AtRest S dcep s' := by
  refine ⟨h.sound.unseen hstep, h.announced.unseen hstep, ?_, hstep.dcep.trans h.dcep,
    fun hwhole c => hstep.buffers c (h.buffers hwhole c)⟩
  rw [hstep.party]
  exact h.settled

/-- Sound transports stay sound whatever DCEP messages are being received. -/
theorem Sound.keepDcep (h : Sound S.nStreams s) (buffer : Option Mbuf) (info : RcvInfo) :
    Sound S.nStreams (s.keepDcep buffer info) :=
  h.alike ⟨rfl, rfl, rfl, le_refl _, rfl, rfl, fun _ => id, fun _ => rfl⟩

/-- The reassembly buffer for DCEP messages may be changed. -/
theorem AtRest.keepDcep (h : AtRest S dcep s) (buffer : Option Mbuf) (info : RcvInfo) :
    AtRest S buffer (s.keepDcep buffer info) :=
  ⟨h.sound.keepDcep buffer info, h.announced, h.settled, rfl, h.buffers⟩

/-- With no handler running, the party may move. -/
theorem Amid.moves (h : Amid S e may [] ends reception K s) (hsound : Sound S.nStreams s')
    (hannounced : Announced [] s') {ends' : Nat → Prop} (hsettled : s'.party.SettledAt ends')
    (huntouched : Untouched s s') (hmoves : Party.Moves may s.party s'.party) :
    Amid S e may [] ends' reception K s' where
  sound := hsound
  announced := hannounced
  settled _ := hsettled
  dcep := huntouched.dcep.trans h.dcep
  buffers hwhole hfs c hc := huntouched.buffers c (h.buffers hwhole hfs c hc)
  kept s'' hs'' := h.kept s'' (owes_trans ⟨hmoves, huntouched.handed⟩ hs'')

/-- Nothing is left to be done at the one end where something was left. -/
theorem Amid.settle (h : Amid S e may [] (· ≠ sid) reception K s)
    (hsid : ∀ r, s.party.streams sid = some r → r.Settled) :
    Amid S e may [] (fun _ => True) reception K s where
  sound := h.sound
  announced := h.announced
  settled _ := by
    intro j r _ hr
    by_cases hj : j = sid
    · subst hj
      exact hsid r hr
    · exact h.settled rfl hj hr
  dcep := h.dcep
  buffers := h.buffers
  kept := h.kept

/-- The channel in a slot has reacted to an item. -/
theorem Amid.reacted {i : Item ChannelId Message} (h : AtRest S dcep s)
    (hslot : s.channels sid = some c) (hstep : Becomes c p [] s s')
    (hfollows : (s.standing c).Follows p)
    (hreacts : Party.Reacts sid i s.party (s.party.put sid (some (p.occupant c)) [])) :
    Amid S e may [] (· ≠ sid) ⟨dcep, none⟩ (Delivered may sid i [] s) s' where
  sound := h.sound.becomes hstep Standing.says_nil hfollows
  announced := h.announced.becomes hstep hfollows.connecting
  settled _ := by
    rw [hstep.party h.sound [] hslot]
    apply Party.SettledAt.put
    · intro j r _ hr
      exact h.settled trivial hr
    · intro r hne _
      exact absurd rfl hne
  dcep := hstep.dcep.trans h.dcep
  buffers hwhole _ c _ := hstep.buffers c (h.buffers hwhole c)
  kept s'' hs'' := by
    obtain ⟨hmoves, hhanded⟩ := hs''
    rw [hstep.party h.sound [] hslot] at hmoves
    refine ⟨⟨_, hreacts, hmoves⟩, ?_⟩
    rw [hhanded, hstep.handed, List.append_nil]

/-! ## Section 2: Resets -/

/-- The end that a channel in a slot holds. -/
theorem streams_standing (hslot : s.channels sid = some c) :
    s.party.streams sid = some ((s.standing c).occupant c) :=
  streams_party hslot

/-- Acts leave the channel in the slot. -/
theorem channels_of_acts (hslot : s.channels sid = some c)
    (hacts : Party.Acts may s.party s'.party) :
    s'.channels sid = some c ∧
      ((s.standing c).occupant c).Evolves ((s'.standing c).occupant c) := by
  obtain ⟨r, hr, hevolves⟩ := hacts.evolves (streams_standing hslot)
  obtain ⟨c', hslot', rfl⟩ := Option.map_eq_some_iff.mp hr
  obtain rfl : c' = c := hevolves.channel
  exact ⟨hslot', hevolves⟩

/-- A channel has been closed, and this is reported. -/
theorem dataChannelSetState_closed_tracks {Q : (Transport → Prop) → Unit → Transport → Prop}
    (h : Amid S e may fs ends reception K (s.enterState c .closed))
    (hQ : ∀ K' s', Amid S e may fs ends reception K' s' →
      Party.Acts may (s.enterState c .closed).party s'.party → Q K' () s') :
    ((dataChannelSetState c .closed).run s).Tracks (endpoint S e may) a fs Q K := by
  simp only [dataChannelSetState, Routine.run_bind, Routine.run_modify, run_logEvent,
    Routine.run_get, Prog.bind, Routine.run_ite]
  split
  · rw [run_callHandler]
    apply tracks_handler (h.unseen (Unseen.log _ rfl rfl)) (by simp)
    intro s' h' hacts
    rw [(Unseen.log _ rfl rfl).party] at hacts
    exact hQ _ s' h' hacts
  · exact hQ K _ h .refl

/-- The end of `handle_stream_reset_event` for one stream. -/
theorem closeIfBothReset_tracks (h : Amid S e may [] (· ≠ sid) reception K s)
    (hslot : s.channels sid = some c)
    (hleaving : (s.standing c).incoming = true → (s.standing c).state.stage = .leaving) :
    ((closeIfBothReset c).run s).Tracks (endpoint S e may) a []
      (fun K' _ s' => Amid S e may [] (fun _ => True) reception K' s') K := by
  simp only [closeIfBothReset, Routine.run_bind, Routine.run_get, Prog.bind, Routine.run_ite]
  split
  · next hboth =>
    have hin : (s.standing c).incoming = true := hboth.1
    have hout : (s.standing c).outgoing = true := hboth.2
    have hstage := hleaving hin
    have hstep := Becomes.enterState s c .closed
    have hconsistent := h.sound.consistent c
    have hle : DataChannelState.closing ≤ .closed := by decide
    -- the peer does not see a difference between closing and closed
    have hsame : (s.enterState c .closed).party = s.party := by
      rw [hstep.party h.sound [] hslot]
      have hoccupant : Standing.occupant { s.standing c with state := .closed } c =
          (s.standing c).occupant c := by
        have hclosed : DataChannelState.closed.stage = .leaving := rfl
        simp only [Standing.occupant, hstage, hclosed]
      rw [hoccupant]
      exact party_put_self hslot
    have h₁ : Amid S e may [] (· ≠ sid) reception K (s.enterState c .closed) := by
      have hfollows : (s.standing c).Follows { s.standing c with state := .closed } := by
        refine ⟨rfl, fun _ => rfl, fun _ => rfl, ?_, (h.sound.registered hslot).elim,
          fun _ => hle, fun hpending => ⟨hle, (hconsistent.pending hpending).2⟩⟩
        intro hconnecting
        cases hconnecting
      refine h.acts (h.sound.becomes hstep Standing.says_nil hfollows)
        (h.announced.becomes hstep hfollows.connecting) hstep.toUntouched (by rw [hsame])
    rw [Prog.tracks_bind]
    apply dataChannelSetState_closed_tracks h₁
    intro K' s' h' hacts
    rw [hsame] at hacts
    obtain ⟨hslot', hevolves⟩ := channels_of_acts hslot hacts
    have hsid := Transport.sid_of_streamId (h'.sound.slot hslot')
    have hleaving' := hevolves.leaving hstage
    simp only [run_clearSlot, hsid, Prog.tracks_ret]
    -- the slot is given up
    have hmove : Party.Move may s'.party _ := .vacate s'.party sid _
      (streams_standing hslot') (hevolves.incoming.trans hin) (hevolves.outgoing.trans hout)
    have hparty : (s'.setSlot sid none).party = s'.party.put sid none [] :=
      Transport.party_setSlot_none s' sid
    have h'' : Amid S e may [] (fun _ => True) reception K' (s'.setSlot sid none) :=
      h'.moves (h'.sound.clearSlot hslot' hleaving') ?_ ?_ ⟨rfl, fun _ => id, rfl⟩
        (by rw [hparty]; exact Relation.ReflTransGen.single hmove)
    · exact h''.unseen (Unseen.log _ rfl rfl)
    · intro j c' hj hstate
      exact h'.announced (channels_of_setSlot_none hj) hstate
    · rw [hparty]
      intro j r _ hr
      by_cases hj : j = sid
      · subst hj
        rw [Party.streams_put_self] at hr
        cases hr
      · rw [Party.streams_put_of_ne _ hj] at hr
        exact h'.settled rfl hj hr
  · next hboth =>
    apply h.settle
    intro r hr
    rw [streams_standing hslot] at hr
    obtain rfl := Option.some.inj hr
    refine ⟨?_, hleaving, hboth⟩
    intro hannounced
    obtain ⟨b, hb⟩ := h.announced hslot (announced_iff.mp hannounced)
    cases hb

/-- Whoever is in a slot has been opened, and closes if its incoming stream has been reset. -/
theorem AtRest.standing (h : AtRest S dcep s) (hslot : s.channels sid = some c) :
    (s.standing c).state ≠ .connecting ∧
      ((s.standing c).incoming = true → (s.standing c).state.stage = .leaving) := by
  constructor
  · intro hconnecting
    obtain ⟨b, hb⟩ := h.announced hslot hconnecting
    cases hb
  · exact (h.settled trivial (streams_standing hslot)).leaving

/-- The answer to a request. -/
theorem handleStreamReset_response (h : AtRest S dcep s) (hslot : s.channels sid = some c)
    {event : StreamResetEvent} (hin : event.incomingSsn = false)
    (hout : event.outgoingSsn = true) :
    ((handleStreamReset event sid).run s).Tracks (endpoint S e may) a []
      (fun K' _ s' => Amid S e may [] (fun _ => True) ⟨dcep, none⟩ K' s')
      (Delivered may sid .response [] s) := by
  have hstep : Becomes c { s.standing c with outgoing := true } [] s
      (s.modifyChannel c fun ch =>
        { ch with flags := { ch.flags with outgoingStreamReset := true } }) :=
    Becomes.setFlags s c ({ · with outgoingStreamReset := true })
  have hreacted : Amid S e may [] (· ≠ sid) ⟨dcep, none⟩ (Delivered may sid .response [] s) _ :=
    .reacted h hslot hstep ((h.sound.consistent c).follows rfl rfl rfl rfl id)
      (.answered _ _ (streams_standing hslot))
  have hbelow : ¬ s.nChannels ≤ sid := by
    rw [h.sound.nChannels]
    exact not_le.mpr (h.sound.below hslot)
  simp only [handleStreamReset, Routine.run_bind, Routine.run_get, Prog.bind, Routine.run_ite,
    if_neg hbelow, hslot, hin, hout, Bool.false_eq_true, if_false, Routine.run_pure, if_true,
    Routine.run_modify]
  apply closeIfBothReset_tracks hreacted hslot
  rw [hstep.self]
  exact (h.standing hslot).2

/-- The request of the peer. A channel that is still open closes now. -/
theorem handleStreamReset_reset (h : AtRest S dcep s) (hslot : s.channels sid = some c)
    {event : StreamResetEvent} (hin : event.incomingSsn = true)
    (hout : event.outgoingSsn = false) :
    ((handleStreamReset event sid).run s).Tracks (endpoint S e may) a []
      (fun K' _ s' => Amid S e may [] (fun _ => True) ⟨dcep, none⟩ K' s')
      (Delivered may sid .reset [] s) := by
  have hstep : Becomes c { s.standing c with incoming := true } [] s
      (s.modifyChannel c fun ch =>
        { ch with flags := { ch.flags with incomingStreamReset := true } }) :=
    Becomes.setFlags s c ({ · with incomingStreamReset := true })
  -- setting the flag is how the party reacts to the request
  have hreacted : Amid S e may [] (· ≠ sid) ⟨dcep, none⟩ (Delivered may sid .reset [] s) _ :=
    .reacted h hslot hstep ((h.sound.consistent c).follows rfl rfl rfl rfl id)
      (.asked _ _ (streams_standing hslot))
  have hbelow : ¬ s.nChannels ≤ sid := by
    rw [h.sound.nChannels]
    exact not_le.mpr (h.sound.below hslot)
  generalize hs₁ : (s.modifyChannel c fun ch =>
    { ch with flags := { ch.flags with incomingStreamReset := true } }) = s₁ at hstep hreacted
  have hstate : (s₁.dataChannels c).state = (s.standing c).state :=
    congrArg Standing.state hstep.self
  have hslot₁ : s₁.channels sid = some c := by
    rw [hstep.channels]
    exact hslot
  simp only [handleStreamReset, Routine.run_bind, Routine.run_get, Prog.bind, Routine.run_ite,
    if_neg hbelow, hslot, hin, hout, if_true, handleIncomingStreamReset, Routine.run_modify, hs₁,
    Bool.false_eq_true, if_false]
  by_cases hopen : (s.standing c).state = .opened
  · -- the channel begins to close
    have hopen₁ : (s₁.standing c).state = .opened := hstate.trans hopen
    have hearly : (s₁.dataChannels c).state ≠ .closing ∧ (s₁.dataChannels c).state ≠ .closed := by
      rw [hstate, hopen]
      exact ⟨DataChannelState.noConfusion, DataChannelState.noConfusion⟩
    rw [if_pos hearly]
    simp only [Prog.tracks_bind]
    -- the own stream is reset as well, now or when the queue is empty
    apply resetOutgoingStream_leaves hreacted hslot₁
    intro s' hresets
    simp only [ne_eq, not_true, if_false, run_dataChannelSetState_closing, Prog.bind,
      Routine.run_pure, Prog.tracks_ret, Bool.false_eq_true]
    have hleave := hreacted.leave (.inr (congrArg Standing.incoming hstep.self)) hslot₁ hopen₁
      hresets
    have hslot' : (s'.enterState c .closing).channels sid = some c := by
      cases hresets <;> exact hslot₁
    apply closeIfBothReset_tracks hleave hslot'
    intro _
    have hself := congrArg Standing.state (Becomes.enterState s' c .closing).self
    rw [hself]
    rfl
  · have hleaving : (s.standing c).state.stage = .leaving := by
      have hopened := (h.standing hslot).1
      revert hopen hopened
      cases (s.standing c).state <;> simp [DataChannelState.stage]
    -- it was closing before, so its own stream has been taken care of
    have hlate : ¬ ((s₁.dataChannels c).state ≠ .closing ∧
        (s₁.dataChannels c).state ≠ .closed) := by
      rw [hstate]
      rcases leaving_iff.mp hleaving with hclosing | hclosed
      · simp [hclosing]
      · simp [hclosed]
    rw [if_neg hlate]
    simp only [Routine.run_pure, Prog.bind, Bool.false_eq_true, if_false]
    apply closeIfBothReset_tracks hreacted hslot₁
    intro _
    have hsame : (s₁.standing c).state = (s.standing c).state := hstate
    rw [hsame]
    exact hleaving

/-! ## Section 3: Messages on channels -/

/-- The first message on a channel allows unordered messages. -/
theorem Amid.heard (h : AtRest S dcep s) (hslot : s.channels sid = some c) {c' : ChannelId}
    {m : Message} (hm : Vocabulary.proposal m = none) :
    Amid S e may [] (fun _ => True) ⟨dcep, none⟩ (Delivered may sid (.message c' m) [] s)
      (s.modifyContext c Context.allowUnordered) := by
  have hsid := h.sound.slot hslot
  have hstep : Becomes c { s.standing c with unordered := true } [] s
      (s.modifyContext c Context.allowUnordered) := by
    rw [← standing_allowUnordered hsid]
    exact Becomes.modifyChannel s _ (Fixed.modifyContext s fun _ => id)
  have hreacted : Amid S e may [] (· ≠ sid) ⟨dcep, none⟩
      (Delivered may sid (.message c' m) [] s) _ :=
    .reacted h hslot hstep ((h.sound.consistent c).follows rfl rfl rfl rfl id)
      (.hear _ _ _ _ (streams_standing hslot) hm)
  apply hreacted.settle
  intro r hr
  have hslot' : (s.modifyContext c Context.allowUnordered).channels sid = some c := hslot
  rw [streams_standing hslot', hstep.self] at hr
  obtain rfl := Option.some.inj hr
  have hsettled := h.settled trivial (streams_standing hslot)
  exact ⟨hsettled.opened, hsettled.leaving, hsettled.staying⟩

/-- What has been received on a channel changes. -/
theorem Amid.modifyInbound (h : Amid S e may [] ends ⟨dcep, busy⟩ K s) {f : Context → Context}
    (hsid : ∀ x, (f x).sid = x.sid)
    (hunordered : ∀ x, (f x).flags.canSendUnordered = x.flags.canSendUnordered)
    (hpending : ∀ x, (f x).flags.pendingStreamReset = x.flags.pendingStreamReset)
    {busy' : Option ChannelId} (hbuffers : S.whole → ∀ c', busy' ≠ some c' →
      ((s.modifyContext c f).context c').bufferInbound = none) :
    Amid S e may [] ends ⟨dcep, busy'⟩ K (s.modifyContext c f) := by
  have halike := Alike.modifyContext (c := c) s hsid hunordered hpending
  refine ⟨h.sound.alike halike, h.announced.alike halike, ?_, h.dcep,
    fun hwhole _ => hbuffers hwhole, ?_⟩
  · intro hfs
    rw [halike.party]
    exact h.settled hfs
  · intro s' hs'
    obtain ⟨hmoves, hhanded⟩ := hs'
    rw [halike.party] at hmoves
    exact h.kept s' ⟨hmoves, hhanded⟩

/-- A message is stored before it is handed over. -/
theorem Amid.store (h : Amid S e may [] ends ⟨dcep, none⟩ K s) (c : ChannelId)
    {f : Context → Context} (hsid : ∀ x, (f x).sid = x.sid)
    (hunordered : ∀ x, (f x).flags.canSendUnordered = x.flags.canSendUnordered)
    (hpending : ∀ x, (f x).flags.pendingStreamReset = x.flags.pendingStreamReset) :
    Amid S e may [] ends ⟨dcep, some c⟩ K (s.modifyContext c f) := by
  apply h.modifyInbound hsid hunordered hpending
  intro hwhole c' hc'
  have hne : c' ≠ c := by
    rintro rfl
    exact hc' rfl
  rw [Transport.context, s.dataChannels_modifyContext_of_ne hne]
  exact h.buffers hwhole rfl c' (by simp)

/-- The buffer is released afterwards. -/
theorem Amid.release (h : Amid S e may [] ends ⟨dcep, some c⟩ K s) :
    Amid S e may [] ends ⟨dcep, none⟩ K (s.modifyContext c Context.releaseInbound) := by
  apply h.modifyInbound (f := Context.releaseInbound) (fun _ => rfl) (fun _ => rfl) fun _ => rfl
  intro hwhole c' _
  by_cases hc : c' = c
  · subst hc
    rw [Transport.context, s.dataChannels_modifyContext]
    cases (s.dataChannels c').transportArg <;> rfl
  · rw [Transport.context, s.dataChannels_modifyContext_of_ne hc]
    exact h.buffers hwhole rfl c' (by simpa using Ne.symm hc)

/-- A message is handed over after the party has reacted. -/
theorem Amid.hand {i : Item ChannelId Message} {s₀ : Transport} {hd : Handler}
    {x : ChannelId × UserMessage} (h : Amid S e may [] ends reception (Delivered may sid i [] s₀) s)
    (hx : (Event.handler hd).handed = some x) :
    Amid S e may [] ends reception (Delivered may sid i [x] s₀) (s.log (.handler hd)) := by
  have halike : Alike s (s.log (.handler hd)) := Alike.log s rfl
  obtain ⟨⟨p, hreacts, hmoves⟩, hhanded⟩ := h.now
  refine ⟨h.sound.alike halike, h.announced.alike halike, ?_, h.dcep, h.buffers, ?_⟩
  · intro hfs
    rw [halike.party]
    exact h.settled hfs
  · intro s' hs'
    obtain ⟨hmoves', hhanded'⟩ := hs'
    rw [halike.party] at hmoves'
    refine ⟨⟨p, hreacts, Relation.ReflTransGen.trans hmoves hmoves'⟩, ?_⟩
    rw [hhanded', Transport.handed_log, hx, hhanded, List.append_nil]
    rfl

theorem handed_messageHandler (c : ChannelId) (u : UserMessage) :
    (Event.handler (.messageHandler c (some u.bytes) u.messageFlags)).handed = some (c, u) := rfl

/-- The end of `handle_application_message` for a whole message. -/
theorem passMessageToHandler_tracks {i : Item ChannelId Message} {s₀ : Transport}
    {u : UserMessage} {message : Mbuf} {handler : Bool}
    (h : Amid S e may [] (fun _ => True) ⟨dcep, some c⟩ (Delivered may sid i [] s₀) s)
    (hmessage : message.rest = u.bytes)
    (hhandler : (s.dataChannels c).handlers.messageHandler = handler) :
    ((passMessageToHandler c message u.ppid true).run s).Tracks (endpoint S e may) a []
      (fun K' _ s' => Amid S e may [] (fun _ => True) ⟨dcep, none⟩ K' s')
      (Delivered may sid i (if handler then [(c, u)] else []) s₀) := by
  simp only [passMessageToHandler, Routine.run_bind, Routine.run_get, Prog.bind,
    u.messageFlagsOfPpid_eq, Routine.run_ite, hhandler, hmessage]
  cases handler with
  | true =>
    rw [if_pos rfl, if_pos rfl, run_callHandler]
    apply tracks_handler (h.hand (handed_messageHandler c u)) (by simp)
    intro s' h' _
    exact h'.release
  | false => exact h.release

/-- `handle_application_message` for a whole message to a channel in a slot. -/
theorem handleApplicationMessage_tracks (hwhole : S.whole) (h : AtRest S dcep s)
    (hslot : s.channels sid = some c) {c' : ChannelId} {m : Message} {u : UserMessage}
    (hu : m.content = some u) :
    ((handleApplicationMessage { data := u.payload } ⟨sid, u.ppid⟩ true).run s).Tracks
      (endpoint S e may) a [] (fun K' _ s' => Amid S e may [] (fun _ => True) ⟨dcep, none⟩ K' s')
      (Delivered may sid (.message c' m) (s.offers sid (.message c' m)) s) := by
  have hm : Vocabulary.proposal m = none := by
    refine if_neg fun hdcep => ?_
    rw [Message.content_of_dcep hdcep] at hu
    cases hu
  have hheard : Amid S e may [] (fun _ => True) ⟨dcep, none⟩
      (Delivered may sid (.message c' m) [] s) _ :=
    .heard h hslot hm
  have hoffers : s.offers sid (.message c' m) =
      if (s.dataChannels c).handlers.messageHandler then [(c, u)] else [] := by
    simp only [Transport.offers, hslot, hu]
  -- what decides about the message is not touched on the way to the handler
  have hhandler : ∀ f : Context → Context, ((s.modifyContext c f).dataChannels
      c).handlers.messageHandler = (s.dataChannels c).handlers.messageHandler := by
    intro f
    rw [s.dataChannels_modifyContext]
  have hcomplete : (true && u.ppid != ppidUtf16Partial && u.ppid != ppidBinaryPartial) = true :=
    u.completes_eq sid true
  have hnone : ((s.modifyContext c Context.allowUnordered).context c).bufferInbound = none :=
    (Fixed.modifyContext s (f := Context.allowUnordered) fun _ => id).buffers c (h.buffers hwhole c)
  simp only [handleApplicationMessage, Routine.run_bind, Routine.run_get, Prog.bind, hslot,
    Routine.run_modify, Routine.run_ite]
  by_cases hempty : u.ppid = ppidUtf16Empty ∨ u.ppid = ppidBinaryEmpty
  · rw [if_pos hempty, if_neg (by simp), hoffers]
    have hstored := hheard.store c (f := Context.storeInbound
      (some (Mbuf.skipToEnd { data := u.payload })) false) (fun _ => rfl) (fun _ => rfl)
      fun _ => rfl
    apply passMessageToHandler_tracks hstored
    · rw [Mbuf.rest_skipToEnd, u.ppid_empty_iff.mp hempty]
    · rw [s.modifyContext_modifyContext]
      exact hhandler _
  rw [if_neg hempty]
  have hbytes : (Mbuf.mk u.payload 0).rest = u.bytes := by
    rw [Mbuf.rest_mk_zero, UserMessage.payload, if_neg (mt u.ppid_empty_iff.mpr hempty)]
  split
  · -- the message is complete, and nothing has been there before
    rw [hoffers]
    simp only [bufferMessageReceivedRaiseComplete, hnone, hcomplete, if_true, Routine.run_pure,
      Routine.run_bind, Routine.run_modify, Prog.bind, Transport.modifyContext_modifyContext]
    have hstored := hheard.store c (f := Context.storeInbound (some { data := u.payload }) false ∘
      Context.keepInbound (some { data := u.payload }) ⟨sid, u.ppid⟩) (fun _ => rfl) (fun _ => rfl)
      fun _ => rfl
    rw [s.modifyContext_modifyContext] at hstored
    exact passMessageToHandler_tracks hstored hbytes (hhandler _)
  · have hstored := hheard.store c (f := Context.storeInbound (some { data := u.payload }) (!true))
      (fun _ => rfl) (fun _ => rfl) fun _ => rfl
    rw [hoffers]
    apply passMessageToHandler_tracks hstored hbytes
    rw [s.modifyContext_modifyContext]
    exact hhandler _

/-! ## Section 4: DCEP messages -/

/-- The reassembly buffer for DCEP messages is released. -/
theorem Amid.setDcepBuffer (h : Amid S e may [] ends ⟨dcep, none⟩ K s) (buffer : Option Mbuf) :
    Amid S e may [] ends ⟨buffer, none⟩ K (s.setDcepBuffer buffer) :=
  ⟨h.sound.keepDcep buffer s.infoDcepInbound, h.announced, h.settled, rfl, h.buffers, h.kept⟩

/-- An ACK message. -/
theorem handleDataChannelAckMessage_tracks (h : AtRest S dcep s) (hslot : s.channels sid = some c)
    {c' : ChannelId} {m : Message} (hm : Vocabulary.proposal m = none) {info : RcvInfo}
    (hinfo : info.rcvSid = sid) :
    ((handleDataChannelAckMessage info).run s).Tracks (endpoint S e may) a []
      (fun K' _ s' => Amid S e may [] (fun _ => True) ⟨dcep, none⟩ K' s')
      (Delivered may sid (.message c' m) [] s) := by
  have hheard : Amid S e may [] (fun _ => True) ⟨dcep, none⟩
      (Delivered may sid (.message c' m) [] s) _ :=
    .heard h hslot hm
  simp only [handleDataChannelAckMessage, Routine.run_bind, Routine.run_get, Prog.bind, hinfo,
    hslot, Routine.run_ite]
  by_cases hknown : (s.context c).flags.canSendUnordered = true
  · -- nothing is new
    rw [if_pos hknown]
    have hsid := h.sound.slot hslot
    refine ⟨h.sound, h.announced, fun _ => h.settled, h.dcep,
      fun hwhole _ c' _ => h.buffers hwhole c', ?_⟩
    intro s' hs'
    refine ⟨⟨s.party, ?_, hs'.1⟩, hs'.2.trans (List.append_nil _).symm⟩
    have hsame : { s.standing c with unordered := true } = s.standing c := by
      have hunordered : (s.standing c).unordered = true := hknown
      rw [← hunordered]
    have hhear := Party.Reacts.hear s.party _ c' m (streams_standing hslot) hm
    have hoccupant : { (s.standing c).occupant c with unordered := true } =
        Standing.occupant { s.standing c with unordered := true } c := rfl
    rw [hoccupant, hsame, party_put_self hslot] at hhear
    exact hhear
  · rw [if_neg hknown]
    exact hheard

section Open

variable [MessageBuffer] {terms : Terms} {c' : ChannelId} {m : Message}

omit [MessageBuffer] in
/-- The ACK message of a channel. -/
theorem ofSent?_ack (context : Context) :
    ∃ m, Message.ofSent? (dcepSendInfo context) [dcepMessageTypeAck] = some m ∧
      Vocabulary.proposal m = none ∧ Vocabulary.greets m = true := by
  let m : Message := ⟨dcepSendInfo context, [dcepMessageTypeAck], fun _ => ⟨rfl, rfl, .inr rfl⟩,
    fun h => absurd rfl h⟩
  exact ⟨m, m.ofSent?_eq, rfl, rfl⟩

omit [MessageBuffer] in
/-- A channel that has been announced is opened. -/
theorem opens_tracks {f : Call × Op} (hf : f.2 = .handler (.dataChannelHandler c))
    (hsound : Sound S.nStreams s) (hannounced : Announced [f] s) (hslot : s.channels sid = some c)
    (hstate : (s.standing c).state = .connecting) (hin : (s.standing c).incoming = false)
    (hsettled : s.party.SettledAt (· ≠ sid)) (hdcep : s.bufferDcepInbound = dcep)
    (hbuffers : S.whole → ∀ c, (s.context c).bufferInbound = none)
    (hkept : ∀ s', (endpoint S e may).promise s s' → K s') :
    ((dataChannelSetState c .opened).run s).Tracks (endpoint S e may) a []
      (fun K' _ s' => Amid S e may [] (fun _ => True) ⟨dcep, none⟩ K' s') K := by
  have hstep := Becomes.enterState s c .opened
  have hconsistent := hsound.consistent c
  have hparty := hstep.party hsound [] hslot
  -- opening is a move of the party
  have hmove : Party.Move may s.party _ :=
    .open s.party sid _ (streams_standing hslot) (announced_iff.mpr hstate)
  -- a channel that is only announced has not begun to close
  obtain ⟨hrequested, hpending⟩ : (s.standing c).requested = false ∧
      (s.standing c).pending = false := by
    apply hconsistent.early
    rw [hstate]
    exact Stage.noConfusion
  have hfollows : (s.standing c).Follows { s.standing c with state := .opened } := by
    refine ⟨rfl, fun _ => rfl, ?_, fun _ => hstate, (hsound.registered hslot).elim, ?_, ?_⟩
    · intro hleaving
      rw [hstate] at hleaving
      cases hleaving
    · intro hrequested'
      cases hrequested.symm.trans hrequested'
    · intro hpending'
      cases hpending.symm.trans hpending'
  refine dataChannelSetState_opened_tracks
    (?_ : Amid S e may [] (fun _ => True) ⟨dcep, none⟩ K _) fun K' s' h' => h'
  refine ⟨hsound.becomes hstep Standing.says_nil hfollows, ?_, ?_, hstep.dcep.trans hdcep,
    fun hwhole _ c' _ => hstep.buffers c' (hbuffers hwhole c'), ?_⟩
  · -- nobody else is being announced
    intro j c₁ hj hconnecting
    have hne : c₁ ≠ c := by
      rintro rfl
      have hopened := congrArg Standing.state hstep.self
      have hfalse := hconnecting.symm.trans hopened
      cases hfalse
    have hsame := congrArg Standing.state (hstep.others c₁ hne)
    obtain ⟨b, hb⟩ := hannounced hj (hsame.symm.trans hconnecting)
    obtain rfl := List.mem_singleton.mp hb
    cases hf
    exact absurd rfl hne
  · intro _
    rw [hparty]
    -- only the end of this stream has changed, and nothing is due there
    intro j r _ hr
    by_cases hj : j = sid
    · subst hj
      rw [Party.streams_put_self] at hr
      obtain rfl := Option.some.inj hr
      have hin' : ∀ r : Occupant ChannelId Terms, r.incoming = false → ¬ (r.incoming = true) := by
        intro r hr hr'
        rw [hr] at hr'
        cases hr'
      refine ⟨Stage.noConfusion, fun hr => absurd hr (hin' _ hin), fun hr => hin' _ hin hr.1⟩
    · rw [Party.streams_put_of_ne _ hj] at hr
      exact hsettled hj hr
  · -- what the party does later comes after this move
    intro s' hs'
    apply hkept
    obtain ⟨hmoves, hhanded⟩ := hs'
    rw [hparty] at hmoves
    exact ⟨Relation.ReflTransGen.trans (Relation.ReflTransGen.single hmove) hmoves,
      hhanded.trans hstep.handed⟩

/-- The end of `channel_register`. -/
def announceAndOpen (c : ChannelId) (raiseEvent : Bool) : M Unit := do
  let t ← get
  if raiseEvent ∧ t.dataChannelHandler then
    callHandler (.dataChannelHandler c)
  let t ← get
  if t.state = .connected then
    dataChannelSetState c .opened

omit [MessageBuffer] in
theorem run_channelRegister (c : ChannelId) (context : Context) (raiseEvent : Bool)
    (s : Transport) : (channelRegister c context raiseEvent).run s =
      (announceAndOpen c raiseEvent).run (s.register c context) := rfl

omit [MessageBuffer] in
/-- A channel that has been registered is announced and opened. What the party has promised by then
    is kept until the end. -/
theorem announceAndOpen_tracks (hsound : Sound S.nStreams s)
    (hannounced : Announced [(a, .handler (.dataChannelHandler c))] s)
    (hslot : s.channels sid = some c) (hstate : (s.standing c).state = .connecting)
    (hin : (s.standing c).incoming = false) (hsettled : s.party.SettledAt (· ≠ sid))
    (hdcep : s.bufferDcepInbound = dcep)
    (hbuffers : S.whole → ∀ c, (s.context c).bufferInbound = none)
    (hkept : ∀ s', (endpoint S e may).promise s s' → K s') :
    ((announceAndOpen c true).run s).Tracks (endpoint S e may) a []
      (fun K' _ s' => Amid S e may [] (fun _ => True) ⟨dcep, none⟩ K' s') K := by
  simp only [announceAndOpen, Routine.run_bind, Routine.run_get, Prog.bind, Routine.run_ite,
    true_and]
  split
  · have hstep : Unseen s (s.log (.handler (.dataChannelHandler c))) := Unseen.log s rfl rfl
    simp only [run_callHandler, Prog.bind]
    refine ⟨fun _ => ⟨⟨hkept _ ⟨?_, hstep.handed⟩, hsound.unseen hstep, hannounced.unseen hstep,
      by simp, by simp, by simp⟩, ?_⟩, fun hpause => absurd rfl hpause⟩
    · rw [hstep.party]
    · -- the channel is still being announced when the handler returns
      intro _ s' hinv hrely _
      have hacts := hrely.1
      rw [hstep.party] at hacts
      obtain ⟨hslot', hevolves⟩ := channels_of_acts hslot hacts
      have hsame := hevolves.announced (announced_iff.mpr hstate)
      have hstate' : (s'.standing c).state = .connecting :=
        announced_iff.mp ((congrArg Occupant.stage hsame).trans (announced_iff.mpr hstate))
      dsimp only
      rw [if_pos hinv.sound.connected]
      exact opens_tracks rfl hinv.sound hinv.announced hslot' hstate'
        ((congrArg Occupant.incoming hsame).trans hin) (hacts.settledAt hsettled)
        (hrely.2.dcep.trans hdcep) (fun hwhole c' => hrely.2.buffers c' (hbuffers hwhole c'))
        fun _ => id
  · rw [if_pos hsound.connected]
    exact opens_tracks rfl hsound hannounced hslot hstate hin hsettled hdcep hbuffers hkept

/-- The new channel `c` is acknowledged and takes its slot. This is how the party accepts. -/
theorem acknowledgeAndRegister_tracks {s₁ : Transport} (h : AtRest S dcep s)
    (hadd : Becomes c (.fresh terms) [] s s₁) (hnone : (s.standing c).sid = none)
    (hexists : c < s₁.nextChannel) (hfree : s.channels sid = none) (hbelow : sid < S.nStreams)
    (hm : Vocabulary.proposal m = some terms) {info : RcvInfo} (hinfo : info.rcvSid = sid) :
    ((acknowledgeAndRegister c info).run s₁).Tracks (endpoint S e may) a []
      (fun K' registered s' => registered = true ∧
        Amid S e may [] (fun _ => True) ⟨dcep, none⟩ K' s')
      (Delivered may sid (.message c' m) [] s) := by
  let context : Context := { sid := info.rcvSid, flags := { canSendUnordered := true } }
  obtain ⟨ack, hack, hreply, hgreets⟩ := ofSent?_ack context
  have hconnecting := (h.sound.consistent c).unregistered hnone
  -- the new channel has no stream yet, so it changes nothing for the others
  have hsound₁ : Sound S.nStreams s₁ := by
    refine h.sound.becomes hadd Standing.says_nil ⟨hnone.symm, absurd hnone, ?_,
      fun _ => hconnecting, Standing.consistent_fresh _⟩
    intro hleaving
    rw [hconnecting] at hleaving
    cases hleaving
  have hnone₁ : (s₁.standing c).sid = none := by
    rw [hadd.self]
    rfl
  -- there is memory for the context and for the ACK message
  simp only [acknowledgeAndRegister, channelContextCreate, dataChannelAckMessageCreate,
    Routine.run_bind, run_alloc, Prog.bind]
  apply tracks_alloc
  simp only [if_true, Routine.run_pure, Routine.run_bind, run_alloc, Prog.bind]
  apply tracks_alloc
  simp only [if_true, Routine.run_pure, Routine.run_bind, Prog.bind, Prog.tracks_bind]
  -- sending the ACK message calls no handler
  apply Prog.Within.tracks (fun _ => not_pauses_of_isSystem)
    (sendMessage_within (R := fun _ _ => True) none context { data := [dcepMessageTypeAck] }
      ppidDcep s₁)
  apply Prog.Always.mono (sendDcepMessage_passed context (List.cons_ne_nil _ _) s₁)
  intro r s₂ hsent _
  obtain ⟨rfl, hpassed⟩ := hsent
  -- sending it and taking the slot are one step of the party
  have htakes := hpassed.takesSlot (c := c) (i := sid) hack hinfo context hinfo rfl
  rw [hadd.self] at htakes
  have hsound₂ : Sound S.nStreams (s₂.register c context) := by
    refine hsound₁.takesSlot htakes (Standing.says_message rfl (Terms.allow_of_dcep _ hgreets))
      hnone₁ ?_ hbelow hexists rfl ⟨?_, ?_, ?_⟩
    · rw [hadd.channels]
      exact hfree
    · intro hnone'
      cases hnone'
    · intro hrequested
      cases hrequested
    · intro hpending
      cases hpending
  have hannounced₁ : Announced [(a, .handler (.dataChannelHandler c))] s₁ :=
    (h.announced.becomes hadd fun _ => hconnecting).cons _
  have hparty := htakes.party hsound₁ [.message c ack] hnone₁
  rw [hadd.party_of_unregistered h.sound hnone] at hparty
  have hfree' : s.party.streams sid = none := by
    simp [party, hfree]
  -- this step accepts the OPEN message
  have haccept := Party.Reacts.accept s.party c c' m ack terms true hfree'
    (h.sound.not_user hnone) hm hreply hgreets
  rw [Routine.run_ite, if_pos rfl]
  simp only [Routine.run_bind, run_channelRegister, Prog.tracks_bind, Routine.run_pure,
    Prog.tracks_ret]
  have hslot : (s₂.register c context).channels sid = some c := by
    rw [htakes.channels]
    exact Function.update_self _ _ _
  -- only the end of this stream has changed
  have hsettled : (s₂.register c context).party.SettledAt (· ≠ sid) := by
    rw [hparty]
    apply Party.SettledAt.put
    · intro j r _ hr
      exact h.settled trivial hr
    · intro r hne _
      exact absurd rfl hne
  have hfixed := hadd.toFixed.trans htakes.toFixed
  -- whatever follows are moves of the party after it has accepted
  have hdelivered : ∀ s', (endpoint S e may).promise (s₂.register c context) s' →
      Delivered may sid (.message c' m) [] s s' := by
    intro s' hs'
    obtain ⟨hmoves, hhanded⟩ := hs'
    rw [hparty] at hmoves
    refine ⟨⟨_, haccept, hmoves⟩, ?_⟩
    rw [hhanded, hfixed.handed, List.append_nil]
  apply (announceAndOpen_tracks hsound₂
    (hannounced₁.takesSlot htakes fun _ => ⟨a, List.mem_singleton_self _⟩) hslot
    (congrArg Standing.state htakes.self) (congrArg Standing.incoming htakes.self) hsettled
    (hfixed.dcep.trans h.dcep) (fun hwhole c' => hfixed.buffers c' (h.buffers hwhole c'))
    hdelivered).mono
  intro K _ s' h'
  exact ⟨trivial, h'⟩

/-- The OPEN message of a channel, on a free stream of the peer. -/
theorem handleDataChannelOpenMessage_tracks (h : AtRest S dcep s) (hfree : s.channels sid = none)
    (hbelow : sid < S.nStreams) (hopener : openerOf sid = e.other) {message : Mbuf}
    {parameters : DataChannelParameters} {priority : Nat}
    (hparse : decodeOpen message.rest = some (parameters, priority))
    (hm : Vocabulary.proposal m = some parameters.terms) {info : RcvInfo}
    (hinfo : info.rcvSid = sid) :
    ((handleDataChannelOpenMessage message info).run s).Tracks (endpoint S e may) a []
      (fun K' _ s' => Amid S e may [] (fun _ => True) ⟨dcep, none⟩ K' s')
      (Delivered may sid (.message c' m) [] s) := by
  have hparity : peerParity (roleOf e) sid = true := peerParity_roleOf hopener
  have hrunning : s.state ≠ .closed := by
    rw [h.sound.connected]
    exact TransportState.noConfusion
  -- the object
  have hadd : Becomes s.nextChannel (.fresh parameters.terms) [] s
      (s.addChannel { parameters, handlers := {} }) :=
    h.sound.addChannel ⟨rfl, rfl, rfl, rfl, rfl⟩
  have hinitialized : Unseen (s.addChannel { parameters, handlers := {} })
      ((s.addChannel { parameters, handlers := {} }).modifyChannel s.nextChannel fun ch =>
        { ch with flags := { ch.flags with initialized := true } }) :=
    Unseen.modifyChannel _ fun _ => ⟨rfl, rfl, rfl, rfl, rfl⟩
  simp only [handleDataChannelOpenMessage, Routine.run_bind, run_roleGetter, Prog.bind]
  apply tracks_system (o := .roleGetter) rfl
  intro role hrole
  obtain rfl : role = .ok (roleOf e) := hrole
  simp only [Routine.run_ite, hinfo, hparity, Bool.true_eq_false, if_false, Routine.run_bind,
    Routine.run_get, Prog.bind, hfree, ne_eq, not_true, Prog.tracks_bind]
  apply Prog.Within.tracks (fun _ => not_pauses_of_isSystem)
    (dataChannelOpenMessageParse_within (R := (· = ·)) sid message s)
  apply Prog.Always.mono (dataChannelOpenMessageParse_always (ampleMemory_obliging (roleOf e)) s sid
    message)
  intro parsed s' hparsed _
  obtain ⟨rfl, hsame⟩ := hparsed
  obtain rfl : s = s' := hsame.symm
  rw [hparse]
  simp only [Option.elim_some, Routine.run_bind, sctpTransportGetDataTransport, Routine.run_get,
    Prog.bind, Routine.run_ite, if_neg hrunning, run_alloc]
  apply tracks_alloc
  simp only [if_true, Routine.run_pure, not_true, if_false, Routine.run_bind,
    dataChannelCreateInternal, run_alloc, Prog.bind]
  apply tracks_alloc
  simp only [if_true, Routine.run_bind, Routine.run_get, Routine.run_modify, Prog.bind,
    Bool.false_eq_true, if_false, Routine.run_pure, Prog.tracks_bind]
  apply (acknowledgeAndRegister_tracks h (hadd.trans_unseen hinitialized)
    h.sound.unregistered_nextChannel (Nat.lt_succ_self _) hfree hbelow hm hinfo).mono
  intro K registered s' h'
  obtain ⟨rfl, h'⟩ := h'
  exact h'

/-- A whole DCEP message is stored, and it is handled behind its first byte. -/
def Transport.storeDcep (s : Transport) (sid : Nat) (bytes : Bytes) : Transport :=
  ((s.keepDcep (some { data := bytes }) ⟨sid, ppidDcep⟩).log (.dcepMessage sid bytes)).setDcepBuffer
    (some (Mbuf.advance { data := bytes } 1))

omit [MessageBuffer] in
theorem AtRest.storeDcep (h : AtRest S dcep s) (sid : Nat) (bytes : Bytes) :
    AtRest S (some (Mbuf.advance { data := bytes } 1)) (s.storeDcep sid bytes) :=
  ((h.keepDcep _ _).unseen (Unseen.log _ rfl rfl)).keepDcep _ _

omit [MessageBuffer] in
theorem delivered_storeDcep (may : Freedom) (sid : Nat) (i : Item ChannelId Message) (s : Transport)
    (sid' : Nat) (bytes : Bytes) :
    Delivered may sid i [] (s.storeDcep sid' bytes) = Delivered may sid i [] s := by
  have hunseen : Unseen (s.keepDcep (some { data := bytes }) ⟨sid', ppidDcep⟩)
      ((s.keepDcep (some { data := bytes }) ⟨sid', ppidDcep⟩).log (.dcepMessage sid' bytes)) :=
    Unseen.log _ rfl rfl
  have hparty : (s.storeDcep sid' bytes).party = s.party := hunseen.party
  have hhanded : (s.storeDcep sid' bytes).handed = s.handed := hunseen.handed
  unfold Delivered
  rw [hparty, hhanded]

/-- `handle_dcep_message` for a whole message. -/
theorem run_handleDcepMessage (hnone : s.bufferDcepInbound = none) {messageType : UInt8}
    {bytes : Bytes} :
    (handleDcepMessage { data := messageType :: bytes } ⟨sid, ppidDcep⟩ true).run s =
      (do
        if messageType = dcepMessageTypeAck then
          handleDataChannelAckMessage ⟨sid, ppidDcep⟩
        else if messageType = dcepMessageTypeOpen then
          handleDataChannelOpenMessage (Mbuf.advance { data := messageType :: bytes } 1)
            ⟨sid, ppidDcep⟩
        modify (·.setDcepBuffer none) : M Unit).run (s.storeDcep sid (messageType :: bytes)) := by
  have hcomplete : (true && ppidDcep != ppidUtf16Partial && ppidDcep != ppidBinaryPartial) = true :=
    rfl
  simp only [handleDcepMessage, bufferMessageReceivedRaiseComplete, Routine.run_bind,
    Routine.run_get, Prog.bind, hnone, hcomplete, if_true, Routine.run_pure, Routine.run_modify,
    run_logEvent, Mbuf.readU8, Mbuf.rest_mk_zero, Transport.storeDcep]
  rfl

/-- An OPEN message finds a free stream of the peer, and an ACK message the channel it is for. -/
theorem handleDcepMessage_tracks (h : AtRest S none s) (hdcep : m.isDcep = true)
    (hack : Vocabulary.proposal m = none → ∃ c, s.channels sid = some c)
    (hopen : Vocabulary.proposal m ≠ none →
      openerOf sid = e.other ∧ sid < S.nStreams ∧ s.channels sid = none) :
    ((handleDcepMessage { data := m.bytes } ⟨sid, ppidDcep⟩ true).run s).Tracks
      (endpoint S e may) a [] (fun K' _ s' => Amid S e may [] (fun _ => True) {} K' s')
      (Delivered may sid (.message c' m) [] s) := by
  have hproposal : Vocabulary.proposal m = (openParameters m.bytes).map (·.terms) := if_pos hdcep
  -- a DCEP message is an OPEN message that can be parsed, or an ACK
  have hlaw := (m.dcep (by simpa [Message.isDcep] using hdcep)).2.2
  have hidle := h.storeDcep sid m.bytes
  have hdelivered := delivered_storeDcep may sid (.message c' m) s sid m.bytes
  have hother : dcepMessageTypeOpen ≠ dcepMessageTypeAck := by decide
  cases hbytes : m.bytes with
  | nil => simp [hbytes, openParameters] at hlaw
  | cons messageType bytes =>
    rw [hbytes] at hproposal hlaw hidle hdelivered
    rw [run_handleDcepMessage h.dcep, ← hdelivered]
    simp only [Routine.run_bind, Routine.run_ite, Routine.run_modify]
    by_cases htype : messageType = dcepMessageTypeOpen
    · -- the parameters have been parsed already by the law for messages
      rw [htype, if_neg hother, if_pos rfl]
      rw [htype, openParameters, if_pos rfl] at hproposal
      have hnone : (decodeOpen bytes).isSome = true := by
        rcases hlaw with hsome | heq
        · rw [htype, openParameters, if_pos rfl] at hsome
          simpa using hsome
        · rw [htype] at heq
          cases heq
      obtain ⟨⟨parameters, priority⟩, hdecode⟩ := Option.isSome_iff_exists.mp hnone
      rw [hdecode] at hproposal
      obtain ⟨hopener, hbelow, hfree⟩ := hopen (by rw [hproposal]; simp)
      have hparse : decodeOpen (Mbuf.advance { data := dcepMessageTypeOpen :: bytes } 1).rest =
          some (parameters, priority) := by
        simpa using hdecode
      rw [htype] at hidle
      rw [Prog.tracks_bind]
      apply (handleDataChannelOpenMessage_tracks hidle hfree hbelow hopener hparse hproposal
        rfl).mono
      intro K _ s' h'
      exact h'.setDcepBuffer none
    · -- the channel is the one that asked for the stream
      have hackType : messageType = dcepMessageTypeAck := by
        rcases hlaw with hsome | heq
        · rw [openParameters, if_neg htype] at hsome
          cases hsome
        · cases heq
          rfl
      rw [if_pos hackType]
      rw [openParameters, if_neg htype] at hproposal
      obtain ⟨c, hslot⟩ := hack hproposal
      rw [Prog.tracks_bind]
      apply (handleDataChannelAckMessage_tracks hidle hslot hproposal rfl).mono
      intro K _ s' h'
      exact h'.setDcepBuffer none

/-! ## Section 5: All deliveries -/

/-- What has to be there for an item: a free stream of the peer, or a channel. -/
def Expected (S : Setting) (e : Side) (sid : Nat) (s : Transport) : Item ChannelId Message → Prop
  | .message _ m =>
    if Vocabulary.proposal m = none then ∃ c, s.channels sid = some c
    else openerOf sid = e.other ∧ sid < S.nStreams ∧ s.channels sid = none
  | .reset | .response => ∃ c, s.channels sid = some c

/-- The event loop reads a notification about one stream. -/
theorem readStreamReset_tracks (h : AtRest S none s) {event : StreamResetEvent}
    (haccepted : event.denied = false ∧ event.failed = false)
    (hlist : event.strresetStreamList = [sid])
    (hreset : ((handleStreamReset event sid).run s).Tracks (endpoint S e may) a []
      (fun K' _ s' => Amid S e may [] (fun _ => True) {} K' s') K) :
    ((Call.run (.readEvent (.notification 0 0 (.streamReset event)))).run s).Tracks
      (endpoint S e may) a [] (fun K _ => (endpoint S e may).ends [] K) K := by
  have hattached : ¬ s.flags.detached = true := by
    simp [h.sound.attached]
  have haccepted' : ¬ (event.denied = true ∨ event.failed = true) := by
    simp [haccepted]
  simp only [Call.run, readEventHandler, Routine.run_map, Routine.run_bind, Routine.run_get,
    Prog.bind, Routine.run_ite, if_neg hattached, run_alloc]
  apply tracks_alloc
  simp only [if_true, handleNotification, ne_eq, not_true, if_false, handleStreamResetEvent,
    if_neg haccepted', hlist, handleStreamResets, Routine.run_bind, Routine.run_pure,
    Prog.tracks_bind, Prog.tracks_ret]
  apply hreset.mono
  intro K _ s' h'
  exact h'.finish fun _ => rfl

/-- The event loop reads a message. -/
theorem readMessage_tracks (h : AtRest S none s) {bytes : Bytes} {info : RcvInfo} {eor : Bool}
    (hreceive : ((dataReceiveHandler { data := bytes } info eor).run s).Tracks
      (endpoint S e may) a [] (fun K' _ s' => Amid S e may [] (fun _ => True) {} K' s') K) :
    ((Call.run (.readEvent (.data bytes (some info) eor))).run s).Tracks (endpoint S e may) a []
      (fun K _ => (endpoint S e may).ends [] K) K := by
  have hattached : ¬ s.flags.detached = true := by
    simp [h.sound.attached]
  have hconnected : ¬ s.state ≠ .connected := not_not.mpr h.sound.connected
  simp only [Call.run, readEventHandler, Routine.run_map, Routine.run_bind, Routine.run_get,
    Prog.bind, Routine.run_ite, if_neg hattached, run_alloc]
  apply tracks_alloc
  simp only [if_true, if_neg hconnected, Prog.tracks_bind, Routine.run_pure, Prog.tracks_ret]
  apply hreceive.mono
  intro K _ s' h'
  exact h'.finish fun _ => rfl

/-- Whatever has a content is received as a whole. -/
def ReadsWhole (S : Setting) (i : Item ChannelId Message) : Prop :=
  ∀ c m, i = .message c m → m.isDcep = false → S.whole

/-- An item reaches an idle endpoint that expects it. -/
theorem delivery_tracks (h : Endpoint S [] s) {i : Item ChannelId Message}
    (hwhole : ReadsWhole S i) (hi : Expected S e sid s i) :
    ((Call.run (reads sid i)).run s).Tracks (endpoint S e may) a []
      (fun K _ => (endpoint S e may).ends [] K) (Delivered may sid i (s.offers sid i) s) := by
  have hidle := h.idle
  cases i with
  | reset =>
    obtain ⟨c, hslot⟩ := hi
    exact readStreamReset_tracks hidle ⟨rfl, rfl⟩ rfl (handleStreamReset_reset hidle hslot rfl rfl)
  | response =>
    obtain ⟨c, hslot⟩ := hi
    exact readStreamReset_tracks hidle ⟨rfl, rfl⟩ rfl
      (handleStreamReset_response hidle hslot rfl rfl)
  | message c' m =>
    apply readMessage_tracks hidle
    by_cases hdcep : m.info.sendvSndinfo.sndPpid = ppidDcep
    · -- DCEP messages are not for the application
      have hm : m.isDcep = true := by simpa [Message.isDcep] using hdcep
      rw [dataReceiveHandler, if_pos hdcep, hdcep, offers_of_content_none s sid c'
        (Message.content_of_dcep hm)]
      apply handleDcepMessage_tracks hidle hm
      · intro hm
        simpa only [Expected, if_pos hm] using hi
      · intro hm
        simpa only [Expected, if_neg hm] using hi
    · -- a message of the application is no proposal
      have hm : Vocabulary.proposal m = none :=
        if_neg (by simpa [Message.isDcep] using hdcep)
      have hslot : ∃ c, s.channels sid = some c := by
        simpa only [Expected, if_pos hm] using hi
      obtain ⟨c, hslot⟩ := hslot
      obtain ⟨u, hu⟩ := Option.isSome_iff_exists.mp (m.user hdcep)
      obtain ⟨hppid, hpayload⟩ := UserMessage.ofWire?_eq_some hu
      rw [dataReceiveHandler, if_neg hdcep, ← hppid, ← hpayload]
      have huser : m.isDcep = false := by simpa [Message.isDcep] using hdcep
      exact handleApplicationMessage_tracks (hwhole c' m rfl huser) hidle hslot hu

end Open

end Deliveries

end RawrtcDataChannel
