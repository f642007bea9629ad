import RawrtcDataChannel.Negotiation.Opening
import RawrtcDataChannel.Peers.Discipline
import RawrtcDataChannel.Transfer.UserMessages

/-!
# What the entry points of an endpoint do

The application sends, closes and creates channels, and the event loop serves the queue. Each of
these routines conforms to the discipline: closing a channel means to leave, resetting its stream to
request, and creating one to propose.
-/

namespace RawrtcDataChannel

open Reentrant Streams Transport

section Routines

variable {S : Setting} {e : Side} {may : Freedom} {a : Call} {fs : List (Call × Op)}
  {ends : Nat → Prop} {reception : Reception} {K : Transport → Prop} {s s' : Transport}
  {c : ChannelId} {i : Nat} {α : Type}

/-! ## Section 1: Changes of a channel -/

theorem Becomes.enterState (s : Transport) (c : ChannelId) (state : DataChannelState) :
    Becomes c { s.standing c with state := state } [] s (s.enterState c state) := by
  have hchange := (Becomes.modifyChannel (c := c) s ({ · with state := state })
    (Fixed.modifyChannel s id)).trans_unseen (Unseen.log _ (e := .channelState c state) rfl rfl)
  rwa [s.standing_modifyChannel_self] at hchange

theorem Becomes.setFlags (s : Transport) (c : ChannelId)
    (f : DataChannelFlags → DataChannelFlags) :
    Becomes c { s.standing c with
        incoming := (f (s.dataChannels c).flags).incomingStreamReset
        outgoing := (f (s.dataChannels c).flags).outgoingStreamReset } [] s
      (s.modifyChannel c fun ch => { ch with flags := f ch.flags }) := by
  have hchange := Becomes.modifyChannel (c := c) s (fun ch => { ch with flags := f ch.flags })
    (Fixed.modifyChannel s id)
  rwa [s.standing_modifyChannel_self] at hchange

/-- The reset of a channel's stream is requested, after everything else has been sent. -/
theorem Becomes.requestReset {s : Transport} (hidle : s.bufferedMessagesOutgoing = [])
    (c : ChannelId) (i : Nat) :
    Becomes c { s.standing c with requested := true } [(i, .reset)] s
      (s.log (.resetStreams c i none)) := by
  refine ⟨Fixed.log s rfl, rfl, ?_, fun _ hbefore => hbefore.reset hidle c i, ?_, ?_⟩
  · rw [Transport.outgoing_log]
    rfl
  · rw [Transport.standing_log]
    simp [Event.requestsReset]
  · intro c' hc'
    have hother : Event.requestsReset c' (.resetStreams c i none) = false := by
      simp [Event.requestsReset, Ne.symm hc']
    rw [Transport.standing_log, hother, Bool.or_false]
    rfl

/-- A channel that has a context has a stream. -/
theorem exists_context (hsid : (s.standing c).sid = some i) :
    ∃ context, (s.dataChannels c).transportArg = some context ∧ context.sid = i :=
  Option.map_eq_some_iff.mp hsid

theorem standing_setPending (hsid : (s.standing c).sid = some i) (pending : Bool) :
    (s.modifyContext c (Context.setPendingStreamReset pending)).standing c =
      { s.standing c with pending := pending } := by
  obtain ⟨context, hcontext, -⟩ := exists_context hsid
  rw [standing_modifyContext]
  simp [Transport.standing, Transport.streamId, Transport.context, hcontext,
    Context.setPendingStreamReset]

/-- A channel with a stream is marked, or not marked any more. -/
theorem Becomes.modifyContext (hsid : (s.standing c).sid = some i) (pending : Bool) :
    Becomes c { s.standing c with pending := pending } [] s
      (s.modifyContext c (Context.setPendingStreamReset pending)) := by
  rw [← standing_setPending hsid pending]
  exact Becomes.modifyChannel s _ (Fixed.modifyContext s fun _ => id)

theorem standing_allowUnordered (hsid : (s.standing c).sid = some i) :
    (s.modifyContext c Context.allowUnordered).standing c =
      { s.standing c with unordered := true } := by
  obtain ⟨context, hcontext, -⟩ := exists_context hsid
  rw [standing_modifyContext]
  simp [Transport.standing, Transport.streamId, Transport.context, hcontext,
    Context.allowUnordered]

/-! ## Section 2: Closing -/

/-- A system function is called. -/
theorem tracks_system {o : Op} {Q : (Transport → Prop) → α → Transport → Prop}
    {k : o.Reply → Transport → Prog Op Op.Reply Transport α} (ho : o.IsSystem)
    (hk : ∀ r, obliging (roleOf e) o s r → (k r s).Tracks (endpoint S e may) a fs Q K) :
    (Prog.out o s k : Prog Op Op.Reply Transport α).Tracks (endpoint S e may) a fs Q K :=
  ⟨fun hpause => absurd hpause (not_pauses_of_isSystem ho), fun _ => hk⟩

theorem tracks_alloc {Q : (Transport → Prop) → α → Transport → Prop}
    {k : Bool → Transport → Prog Op Op.Reply Transport α}
    (hk : (k true s).Tracks (endpoint S e may) a fs Q K) :
    (Prog.out Op.alloc s k : Prog Op Op.Reply Transport α).Tracks (endpoint S e may) a fs Q K := by
  apply tracks_system (o := .alloc) rfl
  intro ok hok
  obtain rfl : ok = true := hok
  exact hk

/-- `reset_outgoing_stream` requests the reset or postpones it. -/
theorem resetOutgoingStream_tracks {Q : (Transport → Prop) → Code → Transport → Prop}
    (hpostponed : Q K .success (s.modifyContext c (Context.setPendingStreamReset true)))
    (hrequested : s.bufferedMessagesOutgoing = [] →
      Q K .success (s.log (.resetStreams c (s.context c).sid none))) :
    ((resetOutgoingStream c).run s).Tracks (endpoint S e may) a fs Q K := by
  simp only [resetOutgoingStream, Routine.run_bind, Routine.run_get, Prog.bind, Routine.run_ite]
  split
  · exact hpostponed
  · next hidle =>
    simp only [requestStreamReset, Routine.run_bind, run_alloc, Prog.bind]
    apply tracks_alloc
    simp only [if_true, Routine.run_bind, Routine.run_get, run_usrsctpResetStreams, Prog.bind]
    apply tracks_system (o := .resetStreams (s.context c).sid) rfl
    intro error herror
    obtain rfl : error = none := herror
    exact hrequested (not_not.mp hidle)

/-- Open channels are not leaving. -/
theorem not_leaving_of_opened {state : DataChannelState} (hopen : state = .opened) :
    state.stage ≠ .leaving := by
  rw [hopen]
  exact Stage.noConfusion

/-- A channel in a slot changes, which is an act. -/
theorem Amid.acted {p : Standing} (h : Amid S e may fs ends reception K s)
    (hslot : s.channels i = some c) (items : List (Item ChannelId Message))
    (hstep : Becomes c p (items.map (i, ·)) s s') (hsaid : p.Says c (items.map (i, ·)))
    (hfollows : (s.standing c).Follows p) (hacts : Party.Acts may s.party
      (s.party.put i (some (p.occupant c)) items)) : Amid S e may fs ends reception K s' := by
  refine h.acts (h.sound.becomes hstep hsaid hfollows)
    (h.announced.becomes hstep hfollows.connecting) hstep.toUntouched ?_
  rw [hstep.party h.sound items hslot]
  exact hacts

/-- The reset of a channel is postponed, or requested with nothing in the queue. -/
inductive AsksForReset (c : ChannelId) (i : Nat) (s : Transport) : Transport → Prop where
  | postponed : AsksForReset c i s (s.modifyContext c (Context.setPendingStreamReset true))
  | requested : s.bufferedMessagesOutgoing = [] →
      AsksForReset c i s (s.log (.resetStreams c i none))

/-- The closing procedure begins: an open channel leaves, and requests a reset unless this has been
    postponed. -/
theorem Amid.leave (h : Amid S e may fs ends reception K s)
    (hleaves : may.leaves ∨ (s.standing c).incoming = true) (hslot : s.channels i = some c)
    (hopen : (s.standing c).state = .opened) (hresets : AsksForReset c i s s') :
    Amid S e may fs ends reception K (s'.enterState c .closing) := by
  have hsid := h.sound.slot hslot
  obtain ⟨hrequested, hpending⟩ :=
    (h.sound.consistent c).early (not_leaving_of_opened hopen)
  have hfollows : ∀ p : Standing, p.sid = (s.standing c).sid → p.terms = (s.standing c).terms →
      p.state = .closing → (p.pending = true → p.requested = false) → (s.standing c).Follows p := by
    intro p hsid' hterms hclosing hp
    refine ⟨hsid', fun _ => hterms, fun _ => ?_, ?_, ?_, ?_, ?_⟩
    · rw [hclosing]
      rfl
    · intro hconnecting
      rw [hclosing] at hconnecting
      cases hconnecting
    · intro hnone
      rw [hsid', hsid] at hnone
      cases hnone
    · intro _
      exact hclosing.ge
    · exact fun hpending' => ⟨hclosing.ge, hp hpending'⟩
  have hoccupant := streams_party hslot
  rw [Transport.occupant_eq] at hoccupant
  -- the channel leaves
  have hleave : Party.Act may s.party _ := .leave s.party i _ hleaves hoccupant
    (congrArg DataChannelState.stage hopen)
  cases hresets with
  | postponed =>
    have hmarked := Becomes.modifyContext hsid true
    have hstep := hmarked.trans (Becomes.enterState _ c .closing)
    rw [hmarked.self] at hstep
    exact h.acted hslot [] hstep Standing.says_nil (hfollows _ rfl rfl rfl fun _ => hrequested)
      (Relation.ReflTransGen.single hleave)
  | requested hidle =>
    -- it asks for the reset right away
    have hrequest : Party.Act may _ _ := .request _ i
      { (s.standing c).occupant c with stage := .leaving }
      (s.party.streams_put_self i (some _) []) rfl hrequested
    rw [Party.put_put] at hrequest
    have hrequested' := Becomes.requestReset hidle c i
    have hstep := hrequested'.trans (Becomes.enterState _ c .closing)
    rw [hrequested'.self] at hstep
    refine h.acted hslot [.reset] hstep Standing.says_reset (hfollows _ rfl rfl rfl ?_)
      ((Relation.ReflTransGen.single hleave).tail hrequest)
    intro hpending'
    rw [hpending] at hpending'
    cases hpending'

/-- `reset_outgoing_stream` for an open channel, with what its callers do then. -/
theorem resetOutgoingStream_leaves (h : Amid S e may fs ends reception K s)
    (hslot : s.channels i = some c) {Q : (Transport → Prop) → Code → Transport → Prop}
    (hQ : ∀ s', AsksForReset c i s s' → Q K .success s') :
    ((resetOutgoingStream c).run s).Tracks (endpoint S e may) a fs Q K := by
  have hsid := Transport.sid_of_streamId (h.sound.slot hslot)
  apply resetOutgoingStream_tracks
  · exact hQ _ .postponed
  · rw [hsid]
    exact fun hidle => hQ _ (.requested hidle)

/-- `rawrtc_data_channel_close`, but not for a channel that is being announced. -/
theorem dataChannelClose_conforms (hleaves : may.leaves)
    (hc : ∀ b, (b, .handler (.dataChannelHandler c)) ∉ fs) :
    Conforms S e may a fs ends reception (dataChannelClose c) := by
  intro K s h
  simp only [dataChannelClose, Routine.run_bind, Routine.run_get, Prog.bind, Routine.run_ite]
  split
  · exact h
  split
  · exact h
  next hearly =>
  simp only [channelCloseHandler, Routine.run_bind, Routine.run_get, Prog.bind]
  cases harg : (s.dataChannels c).transportArg with
  | none => exact h
  | some context =>
    -- a channel with a context that has not begun to close is in its slot
    have hsid : (s.standing c).sid = some context.sid := by
      simp [Transport.standing, Transport.streamId, harg]
    have hslot : s.channels context.sid = some c :=
      h.sound.held hsid fun hleaving => hearly (leaving_iff.mp hleaving)
    have hopen : (s.standing c).state = .opened := by
      cases hstate : (s.standing c).state with
      | opened => rfl
      | connecting =>
        obtain ⟨b, hb⟩ := h.announced hslot hstate
        exact absurd hb (hc b)
      | closing => exact absurd (.inl hstate) hearly
      | closed => exact absurd (.inr hstate) hearly
    have hcontext : s.context c = context := by
      simp [Transport.context, harg]
    simp only [Routine.run_bind, channelRegistered, Routine.run_get, Prog.bind, Routine.run_ite,
      hcontext, hslot, if_true, Routine.run_pure, Prog.tracks_bind]
    apply resetOutgoingStream_leaves h hslot
    intro s' hresets
    simp only [if_true, run_dataChannelSetState_closing, Prog.bind, Prog.tracks_ret]
    exact h.leave (.inl hleaves) hslot hopen hresets

/-! ## Section 3: Sending -/

section Sending

variable [MessageBuffer]

/-- Whatever the state is. -/
instance : SendFrame fun _ _ => True where
  refl _ := trivial
  trans _ _ _ _ _ := trivial
  sends _ _ _ := trivial
  log _ _ _ := trivial

theorem dataChannelSend_within (c : ChannelId) (message : Option Mbuf) (isBinary : Bool) :
    (dataChannelSend c message isBinary).Within Op.IsSystem fun _ _ => True := by
  have hhandler : (channelSendHandler c message isBinary).Within Op.IsSystem fun _ _ => True := by
    apply Routine.within_get.bind
    intro t
    apply Routine.Within.ite
    · apply alloc_within.bind
      intro ok
      exact Routine.Within.ite (sendMessage_within _ _ _ _) (Routine.within_pure _)
    · exact Routine.Within.ite (Routine.within_pure _) (sendMessage_within _ _ _ _)
  apply Routine.within_get.bind
  intro t
  apply Routine.Within.ite (Routine.within_pure _)
  apply hhandler.bind
  intro error
  apply Routine.Within.ite _ (Routine.within_pure _)
  exact (Routine.within_modify fun _ => trivial).bind fun _ => Routine.within_pure _

omit [MessageBuffer] in
/-- A message is sent as the parameters of the channel say. -/
theorem allow_userSendInfo {m : Message} {channel : DataChannel} {context : Context} {ppid : Nat}
    (hm : m.info = userSendInfo channel context ppid) : channel.parameters.terms.Allow m := by
  constructor
  · intro hunordered
    rw [hm] at hunordered
    have hboth : channel.parameters.channelType.isUnordered = true ∧
        context.flags.canSendUnordered = true := by simpa [userSendInfo] using hunordered
    exact hboth.1
  · intro hlossy
    rw [hm] at hlossy
    have hpartial : (partialReliability channel.parameters).isSome = true := hlossy
    revert hpartial
    cases htype : channel.parameters.channelType <;>
      simp [partialReliability, htype, DataChannelParameters.terms, DataChannelType.isReliable]

omit [MessageBuffer] in
/-- What a message of the application looks like. -/
theorem ofSent?_user (channel : DataChannel) (context : Context) (u : UserMessage) :
    ∃ m, Message.ofSent? (userSendInfo channel context u.ppid) u.payload = some m ∧
      m.content = some u ∧ m.info = userSendInfo channel context u.ppid := by
  let m : Message := ⟨userSendInfo channel context u.ppid, u.payload,
    fun hdcep => absurd hdcep u.ppid_ne_dcep, fun _ => Option.isSome_of_eq_some u.ofWire?_eq⟩
  exact ⟨m, m.ofSent?_eq, u.ofWire?_eq, rfl⟩

omit [MessageBuffer] in
/-- A message is sent on an open channel. -/
theorem Amid.send (hspeaks : may.speaks) (h : Amid S e may fs ends reception K s)
    (hopen : (s.standing c).state = .opened) (u : UserMessage)
    (hpassed : Passed (userSendInfo (s.dataChannels c) (s.context c) u.ppid) u.payload s s') :
    Amid S e may fs ends reception K (s'.log (.messageAccepted c)) := by
  have hconsistent := h.sound.consistent c
  -- an open channel is in its slot
  obtain ⟨i, hsid⟩ : ∃ i, (s.standing c).sid = some i := by
    rw [← Option.ne_none_iff_exists']
    intro hnone
    have hconnecting := hconsistent.unregistered hnone
    rw [hopen] at hconnecting
    cases hconnecting
  have hopened := not_leaving_of_opened hopen
  have hslot := h.sound.held hsid hopened
  obtain ⟨m, hm, -, hinfo⟩ := ofSent?_user (s.dataChannels c) (s.context c) u
  have hsid' : (s.context c).sid = i := Transport.sid_of_streamId hsid
  have hstep := hpassed.accepted (c := c) hm hsid'
  have hallow : (s.standing c).terms.Allow m := allow_userSendInfo hinfo
  refine h.acted hslot [.message c m] hstep (Standing.says_message hsid hallow)
    (hconsistent.follows rfl rfl rfl rfl id) ?_
  apply Relation.ReflTransGen.single
  have hoccupant := streams_party hslot
  rw [Transport.occupant_eq] at hoccupant
  apply Party.Act.send _ _ _ _ hspeaks hoccupant (hconsistent.early hopened).1
  · simp [Vocabulary.greets, Message.isDcep, hinfo, userSendInfo, u.ppid_ne_dcep]
  · intro hunordered
    have hboth : (s.dataChannels c).parameters.channelType.isUnordered = true ∧
        (s.context c).flags.canSendUnordered = true := by
      simpa [Vocabulary.unordered, hinfo, userSendInfo] using hunordered
    exact ⟨hboth.2, hboth.1⟩

/-- `rawrtc_data_channel_send`. -/
theorem dataChannelSend_conforms (hspeaks : may.speaks) (c : ChannelId) (message : Option Mbuf)
    (isBinary : Bool) :
    Conforms S e may a fs ends reception (dataChannelSend c message isBinary) := by
  intro K s h
  apply Prog.Within.tracks (fun _ => not_pauses_of_isSystem) (dataChannelSend_within c message _ s)
  apply Prog.Always.mono (dataChannelSend_always (ampleMemory_obliging (roleOf e))
    (ampleContexts_obliging (roleOf e)) (acceptsAll_obliging (roleOf e)) c message isBinary s)
  intro r s' hsend _
  rcases hsend with ⟨-, rfl, -⟩ | ⟨-, hmay, s₁, hpassed, rfl⟩
  · exact h
  · exact h.send hspeaks hmay.1 _ hpassed

/-! ## Section 4: Creating channels -/

omit [MessageBuffer] in
/-- What an OPEN message looks like that has been made from parameters. -/
theorem ofSent?_open {parameters : DataChannelParameters} (hfits : parameters.Fits)
    (context : Context) : ∃ m,
      Message.ofSent? (dcepSendInfo context) (openMessageBytes parameters) = some m ∧
        Vocabulary.proposal m = some parameters.terms := by
  have hparsed := openParameters_openMessageBytes hfits
  have hsome : (openParameters (openMessageBytes parameters)).isSome = true := by
    cases hopen : openParameters (openMessageBytes parameters) with
    | none =>
      rw [hopen] at hparsed
      cases hparsed
    | some _ => rfl
  let m : Message := ⟨dcepSendInfo context, openMessageBytes parameters,
    fun _ => ⟨rfl, rfl, .inl hsome⟩, fun h => absurd rfl h⟩
  exact ⟨m, m.ofSent?_eq, hparsed⟩

/-- A DCEP message is passed to SCTP. -/
theorem sendDcepMessage_passed (context : Context) {bytes : Bytes} (hbytes : bytes ≠ [])
    (s : Transport) :
    ((sendMessage none context { data := bytes } ppidDcep).run s).Always (obliging (roleOf e))
      fun r s' => r = .success ∧ Passed (dcepSendInfo context) bytes s s' := by
  have hrest : (Mbuf.mk bytes 0).rest = bytes := rfl
  exact sendDcepMessage_always (ampleMemory_obliging (roleOf e))
    (ampleContexts_obliging (roleOf e)) (acceptsAll_obliging (roleOf e)) context (by rwa [hrest]) s

/-- `channel_create_inband` fails without being seen, or it introduces a channel on a free stream
    of its own side. -/
theorem channelCreateInband_passes (parameters : DataChannelParameters) (s : Transport) :
    ((channelCreateInband parameters).run s).Always (obliging (roleOf e)) fun r s' =>
      match r with
      | .error error => error ≠ .success ∧ s' = s
      | .ok context => parameters.Fits ∧ context = { sid := context.sid } ∧
          openerOf context.sid = e ∧ context.sid < s.nChannels ∧ s.channels context.sid = none ∧
          Passed (dcepSendInfo context) (openMessageBytes parameters) s s' := by
  simp only [channelCreateInband, Routine.run_bind, run_stateGetter, Prog.bind]
  intro state _
  cases state with
  | error error => exact ⟨Code.noConfusion, rfl⟩
  | ok state =>
    simp only [Routine.run_ite, Routine.run_bind, run_roleGetter, Prog.bind]
    by_cases hstate : state ≠ .connected
    · rw [if_pos hstate]
      exact ⟨Code.noConfusion, rfl⟩
    rw [if_neg hstate]
    intro role hrole
    obtain rfl : role = .ok (roleOf e) := hrole
    -- the role is that of the side, so it may open streams of its own parity
    obtain ⟨i, hfirst, hopener⟩ := firstSid_roleOf e
    simp only [hfirst, Routine.run_bind, Routine.run_get, Prog.bind]
    cases hfind : findFreeSid s s.nChannels i with
    | none => exact ⟨Code.noConfusion, rfl⟩
    | some sid =>
      obtain ⟨hbelow, hfree⟩ := findFreeSid_eq_some hfind
      -- stream ids fit 16 bits
      have hsid : sid % 2 ^ 16 = sid := by
        have := s.nChannels_le
        exact Nat.mod_eq_of_lt (by omega)
      simp only [Routine.run_bind, hsid, channelContextCreate, run_alloc, Prog.bind]
      intro ok hok
      obtain rfl : ok = true := hok
      simp only [if_true, Routine.run_pure, Prog.bind, dataChannelOpenMessageCreate,
        Routine.run_bind, Routine.run_ite, run_alloc]
      by_cases hlong : 2 ^ 16 - 1 < (stringBytes parameters.label).length ∨
          2 ^ 16 - 1 < (stringBytes parameters.protocol).length
      · rw [if_pos hlong]
        exact ⟨Code.noConfusion, rfl⟩
      -- both strings are short enough for an OPEN message
      have hfits : parameters.Fits := by
        rw [not_or] at hlong
        exact ⟨not_lt.mp hlong.1, not_lt.mp hlong.2⟩
      rw [if_neg hlong]
      intro ok hok
      obtain rfl : ok = true := hok
      simp only [if_true, Prog.bind, Routine.run_bind, Prog.always_bind]
      apply Prog.Always.mono (sendDcepMessage_passed { sid } (openMessageBytes_ne_nil parameters) s)
      intro r s' hpassed
      rw [Routine.run_ite, if_pos hpassed.1]
      exact ⟨hfits, rfl, (openerOf_findFreeSid hfind).trans hopener, hbelow, hfree, hpassed.2⟩

omit [MessageBuffer] in
/-- A channel without a stream may change as long as it has none. -/
theorem Amid.unregistered {p : Standing} (h : Amid S e may fs ends reception K s)
    (hstep : Becomes c p [] s s') (hnone : (s.standing c).sid = none) (hsid : p.sid = none)
    (hp : p.Consistent) : Amid S e may fs ends reception K s' := by
  have hconnecting := (h.sound.consistent c).unregistered hnone
  have hfollows : (s.standing c).Follows p := by
    refine ⟨hsid.trans hnone.symm, absurd hnone, ?_, fun _ => hconnecting, hp⟩
    intro hleaving
    rw [hconnecting] at hleaving
    cases hleaving
  refine h.acts (h.sound.becomes hstep Standing.says_nil hfollows)
    (h.announced.becomes hstep hfollows.connecting) hstep.toUntouched ?_
  rw [hstep.party_of_unregistered h.sound hnone]

omit [MessageBuffer] in
/-- A new object is made, for which nothing has been requested yet. -/
theorem Sound.addChannel (h : Sound S.nStreams s) {channel : DataChannel} {terms : Terms}
    (hchannel : channel.parameters.terms = terms ∧ channel.transportArg = none ∧
      channel.state = .connecting ∧ channel.flags.incomingStreamReset = false ∧
      channel.flags.outgoingStreamReset = false) :
    Becomes s.nextChannel (.fresh terms) [] s (s.addChannel channel) := by
  obtain ⟨hterms, hnone, hstate, hin, hout⟩ := hchannel
  have hconsistent := h.consistent s.nextChannel
  -- nobody has requested anything for a channel that does not exist
  have hrequested : s.resetRequested s.nextChannel = false := by
    apply (hconsistent.early _).1
    rw [hconsistent.unregistered h.unregistered_nextChannel]
    exact Stage.noConfusion
  have hhistory : (s.addChannel channel).resetRequested s.nextChannel = false := hrequested
  have hfixed : Fixed s (s.addChannel channel) := by
    refine ⟨⟨rfl, ?_, rfl⟩, rfl, rfl, rfl, Nat.le_succ _⟩
    intro c hc
    by_cases hnew : c = s.nextChannel
    · simp [Transport.context, Transport.addChannel, Transport.modifyChannel, hnew, hnone]
    · simpa [Transport.context, Transport.addChannel, Transport.modifyChannel, hnew] using hc
  refine ⟨hfixed, rfl, (List.append_nil _).symm, fun _ => passes_nil, ?_, ?_⟩
  · have hobject : (s.addChannel channel).dataChannels s.nextChannel = channel := by
      simp [Transport.addChannel, Transport.modifyChannel]
    simp [Transport.standing, Transport.streamId, Transport.context, hobject, hterms, hnone, hstate,
      hin, hout, hhistory, Standing.fresh]
  · intro c' hc'
    simp [Transport.standing, Transport.streamId, Transport.context, Transport.resetRequested,
      Transport.addChannel, Transport.modifyChannel, hc']

omit [MessageBuffer] in
theorem Standing.consistent_fresh (terms : Terms) : (Standing.fresh terms).Consistent := by
  refine ⟨fun _ => rfl, ?_, ?_⟩
  · intro hrequested
    cases hrequested
  · intro hpending
    cases hpending

omit [MessageBuffer] in
/-- The application creates a channel on a free stream of its own side, and the channel is open. -/
theorem Amid.propose {parameters : DataChannelParameters} {context : Context} {s₁ : Transport}
    (h : Amid S e may fs ends reception K s) (hfresh : s.standing c = .fresh parameters.terms)
    (hexists : c < s.nextChannel) (hfits : parameters.Fits)
    (hcontext : context = { sid := context.sid })
    (hopens : may.opens context.sid) (hbelow : context.sid < s.nChannels)
    (hfree : s.channels context.sid = none)
    (hpassed : Passed (dcepSendInfo context) (openMessageBytes parameters) s s₁) :
    Amid S e may fs ends reception K ((s₁.register c context).enterState c .opened) := by
  obtain ⟨m, hm, hproposal⟩ := ofSent?_open hfits context
  have hnone : (s.standing c).sid = none := by rw [hfresh]; rfl
  have hflags : context.flags = {} := by rw [hcontext]
  have htakes := hpassed.takesSlot (c := c) (i := context.sid) hm rfl context rfl
    (by rw [hcontext])
  -- sending, taking the slot and opening are one step of the party
  have hstep := htakes.trans (Becomes.enterState _ c .opened)
  rw [htakes.self, hflags, hfresh] at hstep
  have hdcep : m.isDcep = true := Vocabulary.greets_of_proposal m (by simp [hproposal])
  refine h.acts ?_ ?_ hstep.toUntouched ?_
  · refine h.sound.takesSlot hstep (Standing.says_message rfl (Terms.allow_of_dcep _ hdcep)) hnone
      hfree (hbelow.trans_eq h.sound.nChannels) hexists rfl ?_
    -- the new channel has a stream, and no reset of it is requested or pending
    refine ⟨?_, ?_, ?_⟩
    · intro hnone'
      cases hnone'
    · intro hrequested
      cases hrequested
    · intro hpending
      cases hpending
  · apply h.announced.takesSlot hstep
    intro hconnecting
    cases hconnecting
  · rw [hstep.party h.sound [.message c m] hnone]
    exact Relation.ReflTransGen.single (Party.Act.propose s.party
      context.sid c parameters.terms m hopens (by simp [party, hfree]) (h.sound.not_user hnone)
      hproposal)

omit [MessageBuffer] in
/-- A channel has been opened, and this is reported. -/
theorem dataChannelSetState_opened_tracks {Q : (Transport → Prop) → Unit → Transport → Prop}
    (h : Amid S e may fs ends reception K (s.enterState c .opened))
    (hQ : ∀ K' s', Amid S e may fs ends reception K' s' → Q K' () s') :
    ((dataChannelSetState c .opened).run s).Tracks (endpoint S e may) a fs Q K := by
  simp only [dataChannelSetState, Routine.run_bind, Routine.run_modify, run_logEvent,
    Routine.run_get, Prog.bind, Routine.run_ite]
  split
  · apply Prog.Tracks.mono (callHandler_conforms (by simp) rfl K _ h)
    intro K' r s' h'
    exact hQ K' s' h'
  · exact hQ K _ h

omit [MessageBuffer] in
/-- `channel_register` for a channel that is not announced. -/
theorem channelRegister_opens {Q : (Transport → Prop) → Unit → Transport → Prop} {context : Context}
    (hconnected : s.state = .connected)
    (h : Amid S e may fs ends reception K ((s.register c context).enterState c .opened))
    (hQ : ∀ K' s', Amid S e may fs ends reception K' s' → Q K' () s') :
    ((channelRegister c context false).run s).Tracks (endpoint S e may) a fs Q K := by
  simp only [channelRegister, takeSlot, Routine.run_bind, Routine.run_modify, Routine.run_get,
    run_logEvent, Prog.bind, Bool.false_eq_true, false_and, if_false, Routine.run_ite,
    Routine.run_pure]
  rw [if_pos (by exact hconnected)]
  exact dataChannelSetState_opened_tracks h hQ

/-- `rawrtc_data_channel_create` for a channel that is not negotiated. -/
theorem dataChannelCreate_conforms (hopens : ∀ sid, openerOf sid = e → may.opens sid)
    (parameters : DataChannelParameters) (handlers : DataChannelHandlers)
    (hinband : parameters.negotiated = false) :
    Conforms S e may a fs ends reception (dataChannelCreate parameters handlers) := by
  intro K s h
  simp only [dataChannelCreate, dataChannelCreateInternal, Routine.run_bind, run_alloc, Prog.bind]
  apply tracks_alloc
  simp only [if_true, Routine.run_bind, Routine.run_get, Routine.run_modify, Prog.bind,
    channelCreateHandler, hinband, Bool.false_eq_true, if_false, Prog.tracks_bind]
  -- the object
  have hadd : Becomes s.nextChannel (.fresh parameters.terms) [] s
      (s.addChannel { parameters, handlers }) :=
    h.sound.addChannel ⟨rfl, rfl, rfl, rfl, rfl⟩
  have h₀ : Amid S e may fs ends reception K (s.addChannel { parameters, handlers }) :=
    h.unregistered hadd h.sound.unregistered_nextChannel rfl (Standing.consistent_fresh _)
  apply Prog.Within.tracks (fun _ => not_pauses_of_isSystem)
    (channelCreateInband_within (R := fun _ _ => True) parameters
      (s.addChannel { parameters, handlers }))
  apply Prog.Always.mono (channelCreateInband_passes (e := e) parameters _)
  intro r s₁ hcreated _
  cases r with
  | error error =>
    -- it goes away again
    obtain ⟨herror, rfl⟩ := hcreated
    have hunregistered : ((s.addChannel { parameters, handlers }).dataChannels
        s.nextChannel).transportArg = none := by
      simp [Transport.addChannel, Transport.modifyChannel]
    simp only [registerCreatedChannel, Routine.run_pure, Prog.tracks_ret, Routine.run_ite,
      if_neg herror, Routine.run_bind, run_dataChannelDestroy_of_unregistered hunregistered,
      Prog.bind]
    exact h₀.unseen (Unseen.modifyChannel _ fun _ => ⟨rfl, rfl, rfl, rfl, rfl⟩)
  | ok context =>
    obtain ⟨hfits, hcontext, hown, hbelow, hfree, hpassed⟩ := hcreated
    have hopened := h₀.propose hadd.self (Nat.lt_succ_self _) hfits hcontext (hopens _ hown)
      hbelow hfree hpassed
    simp only [registerCreatedChannel, Routine.run_bind, Prog.tracks_bind]
    apply channelRegister_opens (hpassed.fixed.state.trans h₀.sound.connected) hopened
    intro K' s' h'
    simp only [Routine.run_pure, Prog.tracks_ret, if_true, Routine.run_bind, Routine.run_modify,
      Prog.bind, Routine.run_ite]
    exact h'.unseen (Unseen.modifyChannel _ fun _ => ⟨rfl, rfl, rfl, rfl, rfl⟩)

/-! ## Section 5: Changes nobody sees -/

omit [MessageBuffer] in
/-- Changes of a channel that concern neither its terms nor its state nor its stream. -/
theorem conforms_modifyChannel {f : DataChannel → DataChannel}
    (hf : ∀ ch, (f ch).parameters = ch.parameters ∧ (f ch).state = ch.state ∧
      (f ch).transportArg = ch.transportArg ∧
      (f ch).flags.incomingStreamReset = ch.flags.incomingStreamReset ∧
      (f ch).flags.outgoingStreamReset = ch.flags.outgoingStreamReset) (c : ChannelId) :
    Conforms S e may a fs ends reception (modify (·.modifyChannel c f) : M Unit) :=
  conforms_modify fun s => Unseen.modifyChannel s hf

omit [MessageBuffer] in
/-- What has been received on a channel is thrown away. -/
theorem discardInbound_conforms (c : ChannelId) : Conforms S e may a fs ends reception
    (modify (·.modifyContext c (Context.storeInbound none false)) : M Unit) :=
  conforms_modify fun s => (Alike.modifyContext s (f := Context.storeInbound none false)
    (fun _ => rfl) (fun _ => rfl) fun _ => rfl).unseen (Fixed.modifyContext s fun _ _ => rfl)

omit [MessageBuffer] in
theorem dataChannelSetHandler_conforms (c : ChannelId)
    (f : DataChannelHandlers → DataChannelHandlers) :
    Conforms S e may a fs ends reception (dataChannelSetHandler c f) := by
  refine (conforms_modifyChannel ?_ c).bind fun _ => conforms_pure _
  exact fun _ => ⟨rfl, rfl, rfl, rfl, rfl⟩

omit [MessageBuffer] in
theorem dataChannelUnsetHandlers_conforms (c : ChannelId) :
    Conforms S e may a fs ends reception (dataChannelUnsetHandlers c) := by
  refine (conforms_modifyChannel ?_ c).bind fun _ => conforms_pure _
  exact fun _ => ⟨rfl, rfl, rfl, rfl, rfl⟩

omit [MessageBuffer] in
theorem dataChannelSetStreaming_conforms (c : ChannelId) (on : Bool) :
    Conforms S e may a fs ends reception (dataChannelSetStreaming c on) := by
  have hhandler : Conforms S e may a fs ends reception (channelSetStreamingHandler c) := by
    apply conforms_get_bind
    intro t
    exact Conforms.ite (conforms_pure _) (conforms_pure _)
  apply conforms_get_bind
  intro t
  apply Conforms.ite (conforms_pure _)
  apply Conforms.ite (conforms_pure _)
  apply hhandler.bind
  intro error
  apply Conforms.ite _ (conforms_pure _)
  refine (conforms_modifyChannel ?_ c).bind fun _ => conforms_pure _
  exact fun _ => ⟨rfl, rfl, rfl, rfl, rfl⟩

/-- `sctp_send_deferred_messages`. What usrsctp is given now has been sent before. -/
theorem sctpSendDeferredMessages_conforms :
    Conforms S e may a fs ends reception sctpSendDeferredMessages := by
  intro K s h
  apply Prog.Within.tracks (fun _ => not_pauses_of_isSystem) (sctpSendDeferredMessages_within s)
  apply Prog.Always.mono (sctpSendDeferredMessages_passes (acceptsAll_obliging (roleOf e)) s
    h.sound.connected)
  intro r s' hpasses hsends
  exact h.unseen (.of_sendsOnly hsends hpasses)

/-- `write_event_handler`. -/
theorem writeEventHandler_conforms : Conforms S e may a fs ends reception writeEventHandler := by
  have hsending : ∀ on : Bool, Conforms S e may a fs ends reception
      (modify fun t => { t with flags := { t.flags with sendingInProgress := on } } : M Unit) :=
    fun on => conforms_modify fun s =>
      .of_eq s rfl rfl rfl rfl rfl rfl rfl rfl rfl
  apply conforms_get_bind
  intro t
  apply Conforms.ite (conforms_pure _)
  apply Conforms.ite (conforms_pure _)
  apply (hsending true).bind
  intro _
  apply sctpSendDeferredMessages_conforms.bind
  intro _
  exact (hsending false).bind fun _ => conforms_pure _

/-! ## Section 6: Events -/

omit [MessageBuffer] in
/-- A change of the marks for pending resets alone is not seen by the peer. -/
theorem Amid.setPending (h : Amid S e may fs ends reception K s)
    (hstep : Becomes c { s.standing c with pending := false } [] s s') :
    Amid S e may fs ends reception K s' := by
  have hfollows : (s.standing c).Follows { s.standing c with pending := false } :=
    (h.sound.consistent c).follows rfl rfl rfl rfl fun hpending => (by cases hpending)
  refine h.acts (h.sound.becomes hstep Standing.says_nil hfollows)
    (h.announced.becomes hstep hfollows.connecting) hstep.toUntouched ?_
  have hsame : s'.party = s.party := by
    apply party_eq hstep.channels
    · intro j c' _
      rw [Transport.occupant_eq, Transport.occupant_eq]
      by_cases hc : c' = c
      · rw [hc, hstep.self]
        rfl
      · rw [hstep.others c' hc]
    · rw [hstep.sent, List.append_nil]
  rw [hsame]

omit [MessageBuffer] in
/-- A reset that has been pending is requested. -/
theorem Amid.request (h : Amid S e may fs ends reception K s) (hslot : s.channels i = some c)
    (hpending : (s.standing c).pending = true)
    (hstep : Becomes c { s.standing c with requested := true, pending := false } [(i, .reset)] s
      s') : Amid S e may fs ends reception K s' := by
  have hconsistent := h.sound.consistent c
  obtain ⟨hclosing, hrequested⟩ := hconsistent.pending hpending
  refine h.acted hslot [.reset] hstep Standing.says_reset
    ⟨rfl, fun _ => rfl, id, id, hconsistent.unregistered, fun _ => hclosing, ?_⟩ ?_
  · intro hpending'
    cases hpending'
  · apply Relation.ReflTransGen.single
    have hoccupant := streams_party hslot
    rw [Transport.occupant_eq] at hoccupant
    apply Party.Act.request _ _ _ hoccupant _ hrequested
    exact leaving_of_le hclosing

omit [MessageBuffer] in
/-- What `handle_sender_dry_event` does for one slot. -/
theorem serveSlot_conforms (i : Nat) : Conforms S e may a fs ends reception (serveSlot i) := by
  intro K s h
  simp only [serveSlot, Routine.run_bind, Routine.run_get, Prog.bind]
  cases hslot : s.channels i with
  | none => exact h
  | some c =>
    simp only [Routine.run_ite]
    split
    · next hpending =>
      have hsid := h.sound.slot hslot
      simp only [Routine.run_bind, Prog.tracks_bind, Routine.run_modify, Prog.tracks_ret]
      apply resetOutgoingStream_leaves h hslot
      intro s' hresets
      cases hresets with
      -- still no room: the mark has been set once more, and is cleared now
      | postponed =>
        apply h.setPending
        have hfirst := Becomes.modifyContext hsid true
        have hsid' : ((s.modifyContext c (Context.setPendingStreamReset true)).standing c).sid =
            some i := by
          rw [hfirst.self]
          exact hsid
        have hsecond := Becomes.modifyContext (s := s.modifyContext c _) hsid' false
        rw [hfirst.self] at hsecond
        exact hfirst.trans hsecond
      -- the reset is requested, which is what has been pending
      | requested hidle =>
        apply h.request hslot hpending
        have hfirst := Becomes.requestReset hidle c i
        have hsid' : ((s.log (.resetStreams c i none)).standing c).sid = some i := by
          rw [hfirst.self]
          exact hsid
        have hsecond := Becomes.modifyContext (s := s.log _) hsid' false
        rw [hfirst.self] at hsecond
        exact hfirst.trans hsecond
    · -- no reset is pending, so at most a handler is called
      simp only [raiseBufferedAmountLowEvent, Routine.run_bind, Routine.run_get, Prog.bind,
        Routine.run_ite]
      split
      · exact callHandler_conforms (by simp) rfl K s h
      · exact h

omit [MessageBuffer] in
theorem senderDryLoop_conforms (stop fuel i : Nat) :
    Conforms S e may a fs ends reception (senderDryLoop stop fuel i) := by
  induction fuel generalizing i with
  | zero => exact conforms_pure _
  | succ fuel ih =>
    apply (serveSlot_conforms i).bind
    intro _
    apply conforms_get_bind
    intro t
    apply Conforms.ite (conforms_pure _)
    exact Conforms.ite (ih _) (conforms_pure _)

omit [MessageBuffer] in
/-- `handle_sender_dry_event`. -/
theorem handleSenderDryEvent_conforms :
    Conforms S e may a fs ends reception handleSenderDryEvent := by
  have hlow : Conforms S e may a fs ends reception
      (modify fun t => { t with flags := { t.flags with bufferedAmountLow := true } } : M Unit) :=
    conforms_modify fun s => .of_eq s rfl rfl rfl rfl rfl rfl rfl rfl rfl
  apply conforms_get_bind
  intro t
  apply Conforms.ite (conforms_pure _)
  apply hlow.bind
  intro _
  apply (senderDryLoop_conforms _ _ _).bind
  intro i
  exact conforms_modify fun s => .of_eq s rfl rfl rfl rfl rfl rfl rfl rfl rfl

omit [MessageBuffer] in
/-- `handle_partial_delivery_event`. -/
theorem handlePartialDeliveryEvent_conforms (pdapiStream : Nat) :
    Conforms S e may a fs ends reception (handlePartialDeliveryEvent pdapiStream) := by
  apply conforms_get_bind
  intro t
  apply Conforms.ite (conforms_pure _)
  cases t.channels pdapiStream with
  | none => exact conforms_pure _
  | some c =>
    apply (discardInbound_conforms c).bind
    intro _
    apply conforms_get_bind
    intro t
    exact Conforms.ite (callHandler_conforms (by simp) rfl) (conforms_pure _)

/-- `read_event_handler` for what concerns neither messages nor resets. -/
theorem readEventHandler_conforms {received : Received} (hlocal : received.IsLocal) :
    Conforms S e may a fs ends reception (readEventHandler received) := by
  apply conforms_get_bind
  intro t
  apply Conforms.ite (conforms_pure _)
  apply (conforms_of_within alloc_within).bind
  intro ok
  apply Conforms.ite _ (conforms_pure _)
  cases received with
  | error wouldBlock => exact conforms_pure _
  | data bytes info eor => exact hlocal.elim
  | notification snLength end_ notification =>
    apply Conforms.bind _ fun _ => conforms_pure _
    apply Conforms.ite (conforms_pure _)
    cases notification with
    | assocChange state => exact hlocal.elim
    | partialDelivery pdapiStream => exact handlePartialDeliveryEvent_conforms pdapiStream
    | senderDry => exact handleSenderDryEvent_conforms
    | streamReset event =>
      have hignored : event.denied = true ∨ event.failed = true := hlocal
      simp only [handleStreamResetEvent, if_pos hignored]
      exact conforms_pure _
    | sendFailed | shutdown | streamChange | other => exact conforms_pure _

/-! ## Section 7: All entry points -/

/-- What the application and the event loop do on their own account keeps the promises. -/
theorem call_conforms (hpermitted : Permitted fs s a) (hfree : a.Free e may)
    (hconnected : s.state = .connected) :
    ∃ m : M Result, (Call.run a).run s = m.run s ∧ Conforms S e may a fs ends reception m := by
  have hmap : ∀ {β : Type} {m : M β} (f : β → Result), Conforms S e may a fs ends reception m →
      Conforms S e may a fs ends reception (f <$> m) :=
    fun f hm => hm.bind fun r => conforms_pure (f r)
  cases a with
  | stop => exact hpermitted.elim
  | destroy => exact hpermitted.elim
  | start size =>
    -- the transport has been started before
    refine ⟨pure (.code .invalidState), ?_, conforms_pure _⟩
    simp [Call.run, sctpTransportStart, Prog.bind, hconnected]
  | create parameters handlers =>
    exact ⟨_, rfl, hmap _ (dataChannelCreate_conforms hfree parameters handlers hpermitted.2)⟩
  | send c message isBinary =>
    exact ⟨_, rfl, hmap _ (dataChannelSend_conforms hfree c message isBinary)⟩
  | close c => exact ⟨_, rfl, hmap _ (dataChannelClose_conforms hfree hpermitted.2)⟩
  | setStreaming c on => exact ⟨_, rfl, hmap _ (dataChannelSetStreaming_conforms c on)⟩
  | setOpenHandler c on => exact ⟨_, rfl, hmap _ (dataChannelSetHandler_conforms c _)⟩
  | setBufferedAmountLowHandler c on =>
    exact ⟨_, rfl, hmap _ (dataChannelSetHandler_conforms c _)⟩
  | setCloseHandler c on => exact ⟨_, rfl, hmap _ (dataChannelSetHandler_conforms c _)⟩
  | setMessageHandler c on => exact ⟨_, rfl, hmap _ (dataChannelSetHandler_conforms c _)⟩
  | unsetHandlers c => exact ⟨_, rfl, hmap _ (dataChannelUnsetHandlers_conforms c)⟩
  | setDataChannelHandler on =>
    refine ⟨_, rfl, Conforms.bind ?_ fun _ => conforms_pure _⟩
    exact conforms_modify fun s => .of_eq s rfl rfl rfl rfl rfl rfl rfl rfl rfl
  | setStateChangeHandler on =>
    refine ⟨_, rfl, Conforms.bind ?_ fun _ => conforms_pure _⟩
    exact conforms_modify fun s => .of_eq s rfl rfl rfl rfl rfl rfl rfl rfl rfl
  | feedInbound buffer => exact ⟨_, rfl, conforms_get_bind fun t => conforms_pure _⟩
  | errorEvent =>
    refine ⟨_, rfl, hmap _ (conforms_get_bind fun t => ?_)⟩
    exact Conforms.ite (conforms_pure _) (conforms_pure _)
  | readEvent received => exact ⟨_, rfl, hmap _ (readEventHandler_conforms hpermitted.2)⟩
  | writeEvent => exact ⟨_, rfl, hmap _ writeEventHandler_conforms⟩

theorem call_tracks (h : Endpoint S fs s) (hpermitted : Permitted fs s a) (hfree : a.Free e may) :
    ((Call.run a).run s).Tracks (endpoint S e may) a fs (fun K _ => (endpoint S e may).ends fs K)
      ((endpoint S e may).owes fs s) := by
  have hconforms : ∃ m : M Result, (Call.run a).run s = m.run s ∧
      Conforms S e may a fs (fun _ => True) { dcep := s.bufferDcepInbound } m :=
    call_conforms hpermitted hfree h.sound.connected
  obtain ⟨m, hrun, hm⟩ := hconforms
  rw [hrun]
  apply (hm _ s (.start h)).mono
  intro K r s' h'
  exact h'.finish fun hfs => by rw [h.dcep hfs]

end Sending

end Routines

end RawrtcDataChannel
