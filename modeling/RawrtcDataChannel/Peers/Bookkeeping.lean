import RawrtcDataChannel.Peers.Abstraction
import RawrtcDataChannel.Slots.Registered

/-!
# Keeping track of a transport as a party

Most of what the routines do can be seen neither by the peer nor by the application: `Unseen`. The
other changes are about one channel: it becomes something else, or it takes a slot, or its slot is
cleared. `Sound` is what is always true of a connected transport. It is kept by all of these
changes, and for each of them there is a lemma that says what it means for the party.
-/

namespace RawrtcDataChannel

open Reentrant Streams

/-! ## Section 1: The standing of a channel -/

/-- What is known of a channel. -/
structure Standing where
  terms : Terms
  state : DataChannelState
  sid : Option Nat
  unordered : Bool
  pending : Bool
  incoming : Bool
  outgoing : Bool
  requested : Bool

namespace Standing

/-- The end of a stream that is held by a channel of this standing. -/
def occupant (p : Standing) (c : ChannelId) : Occupant ChannelId Terms where
  channel := c
  terms := p.terms
  stage := p.state.stage
  unordered := p.unordered
  incoming := p.incoming
  outgoing := p.outgoing
  requested := p.requested

/-- A channel without a stream is in its first state. Resets are for channels that close, and they
    are requested once. -/
structure Consistent (p : Standing) : Prop where
  unregistered : p.sid = none → p.state = .connecting
  requested : p.requested = true → .closing ≤ p.state
  pending : p.pending = true → .closing ≤ p.state ∧ p.requested = false

/-- The standing of a new channel. -/
def fresh (terms : Terms) : Standing :=
  ⟨terms, .connecting, none, false, false, false, false, false⟩

end Standing

/-- Unordered messages are for unordered channels, and messages that may get lost for unreliable
    ones. -/
structure Terms.Allow (terms : Terms) (m : Message) : Prop where
  unordered : m.info.sendvSndinfo.unordered = true → terms.channelType.isUnordered = true
  lossy : m.info.prinfoValid = true → terms.channelType.isReliable = false

/-- DCEP messages are ordered and reliable. -/
theorem Terms.allow_of_dcep (terms : Terms) {m : Message} (hm : m.isDcep = true) :
    terms.Allow m := by
  obtain ⟨hordered, hlossless, -⟩ := m.dcep (by simpa [Message.isDcep] using hm)
  exact ⟨by simp [hordered], by simp [hlossless]⟩

/-- All of these messages may be sent by a channel of this standing. -/
def Standing.Says (p : Standing) (c : ChannelId) (items : List (Nat × Item ChannelId Message)) :
    Prop :=
  ∀ ⦃j c' m⦄, (j, .message c' m) ∈ items → c' = c ∧ p.sid = some j ∧ p.terms.Allow m

/-- What may become of a channel: it keeps its stream, its terms from then on, and does not come
    back once it closes. -/
structure Standing.Follows (q p : Standing) : Prop where
  sid : p.sid = q.sid
  terms : q.sid ≠ none → p.terms = q.terms
  leaving : q.state.stage = .leaving → p.state.stage = .leaving
  connecting : p.state = .connecting → q.state = .connecting
  consistent : p.Consistent

namespace Standing

variable {p q : Standing} {c : ChannelId} {i : Nat} {m : Message}

/-- Whatever concerns neither the state nor resets that have been asked for. -/
theorem Consistent.follows (h : q.Consistent) (hsid : p.sid = q.sid) (hterms : p.terms = q.terms)
    (hstate : p.state = q.state) (hrequested : p.requested = q.requested)
    (hpending : p.pending = true → q.pending = true) : q.Follows p where
  sid := hsid
  terms _ := hterms
  leaving := by
    rw [hstate]
    exact id
  connecting := by
    rw [hstate]
    exact id
  consistent := by
    refine ⟨?_, ?_, ?_⟩
    · rw [hsid, hstate]
      exact h.unregistered
    · rw [hrequested, hstate]
      exact h.requested
    · rw [hrequested, hstate]
      exact fun hp => h.pending (hpending hp)

/-- Resets are not for channels that are not closing. -/
theorem Consistent.early (h : p.Consistent) (hearly : p.state.stage ≠ .leaving) :
    p.requested = false ∧ p.pending = false := by
  constructor
  · by_contra hrequested
    exact hearly (leaving_of_le (h.requested (by simpa using hrequested)))
  · by_contra hpending
    exact hearly (leaving_of_le (h.pending (by simpa using hpending)).1)

theorem says_nil : p.Says c [] := by
  intro j c' m hm
  cases hm

theorem says_reset : p.Says c [(i, .reset)] := by
  intro j c' m hm
  cases List.mem_singleton.mp hm

theorem says_message (hsid : p.sid = some i) (hm : p.terms.Allow m) :
    p.Says c [(i, .message c m)] := by
  intro j c' m' hm'
  cases List.mem_singleton.mp hm'
  exact ⟨rfl, hsid, hm⟩

end Standing

namespace Transport

variable (t : Transport) (c : ChannelId)

/-- What is known of a channel of the transport. -/
def standing : Standing where
  terms := (t.dataChannels c).parameters.terms
  state := (t.dataChannels c).state
  sid := t.streamId c
  unordered := (t.context c).flags.canSendUnordered
  pending := (t.context c).flags.pendingStreamReset
  incoming := (t.dataChannels c).flags.incomingStreamReset
  outgoing := (t.dataChannels c).flags.outgoingStreamReset
  requested := t.resetRequested c

theorem occupant_eq : t.occupant c = (t.standing c).occupant c := rfl

variable {c} {c' : ChannelId}

@[simp] theorem standing_log (e : Event) : (t.log e).standing c' =
    { t.standing c' with requested := t.resetRequested c' || e.requestsReset c' } := by
  have hrequested := t.resetRequested_log e c'
  simp only [standing, hrequested]
  rfl

@[simp] theorem standing_modifyChannel_self (c : ChannelId) (f : DataChannel → DataChannel) :
    (t.modifyChannel c f).standing c =
      { terms := (f (t.dataChannels c)).parameters.terms
        state := (f (t.dataChannels c)).state
        sid := (f (t.dataChannels c)).transportArg.map Context.sid
        unordered := ((f (t.dataChannels c)).transportArg.getD {}).flags.canSendUnordered
        pending := ((f (t.dataChannels c)).transportArg.getD {}).flags.pendingStreamReset
        incoming := (f (t.dataChannels c)).flags.incomingStreamReset
        outgoing := (f (t.dataChannels c)).flags.outgoingStreamReset
        requested := t.resetRequested c } := by
  simp [standing, streamId, context, modifyChannel, resetRequested]

theorem standing_modifyChannel_of_ne (h : c' ≠ c) (f : DataChannel → DataChannel) :
    (t.modifyChannel c f).standing c' = t.standing c' := by
  simp [standing, streamId, context, resetRequested, modifyChannel, h]

end Transport

/-! ## Section 2: Changes that are about one channel -/

/-- Nothing has been received, and nothing has been handed over. -/
structure Untouched (s s' : Transport) : Prop where
  dcep : s'.bufferDcepInbound = s.bufferDcepInbound
  buffers : ∀ c, (s.context c).bufferInbound = none → (s'.context c).bufferInbound = none
  handed : s'.handed = s.handed

theorem Untouched.refl (s : Transport) : Untouched s s :=
  ⟨rfl, fun _ => id, rfl⟩

theorem Untouched.trans {s s' s'' : Transport} (h : Untouched s s') (h' : Untouched s' s'') :
    Untouched s s'' where
  dcep := h'.dcep.trans h.dcep
  buffers c hc := h'.buffers c (h.buffers c hc)
  handed := h'.handed.trans h.handed

/-- Nothing but channels, sent messages and the objects that exist may have changed. -/
structure Fixed (s s' : Transport) : Prop extends Untouched s s' where
  state : s'.state = s.state
  detached : s'.flags.detached = s.flags.detached
  nChannels : s'.nChannels = s.nChannels
  nextChannel : s.nextChannel ≤ s'.nextChannel

theorem Fixed.refl (s : Transport) : Fixed s s :=
  ⟨.refl s, rfl, rfl, rfl, le_refl _⟩

theorem Fixed.trans {s s' s'' : Transport} (h : Fixed s s') (h' : Fixed s' s'') : Fixed s s'' where
  toUntouched := h.toUntouched.trans h'.toUntouched
  state := h'.state.trans h.state
  detached := h'.detached.trans h.detached
  nChannels := h'.nChannels.trans h.nChannels
  nextChannel := h.nextChannel.trans h'.nextChannel

/-- The peer cannot see that anything has changed. -/
structure Alike (s s' : Transport) : Prop where
  state : s'.state = s.state
  detached : s'.flags.detached = s.flags.detached
  nChannels : s'.nChannels = s.nChannels
  nextChannel : s.nextChannel ≤ s'.nextChannel
  channels : s'.channels = s.channels
  sent : s'.outgoing.sent = s.outgoing.sent
  passes : ∀ ⦃items⦄, s.Passes items → s'.Passes items
  standing : ∀ c, s'.standing c = s.standing c

/-- Neither the peer nor the application can see that anything has changed. -/
structure Unseen (s s' : Transport) : Prop extends Fixed s s' where
  channels : s'.channels = s.channels
  sent : s'.outgoing.sent = s.outgoing.sent
  passes : ∀ ⦃items⦄, s.Passes items → s'.Passes items
  standing : ∀ c, s'.standing c = s.standing c

theorem Unseen.alike {s s' : Transport} (h : Unseen s s') : Alike s s' :=
  ⟨h.state, h.detached, h.nChannels, h.nextChannel, h.channels, h.sent, h.passes, h.standing⟩

theorem Alike.unseen {s s' : Transport} (h : Alike s s') (hfixed : Fixed s s') : Unseen s s' :=
  ⟨hfixed, h.channels, h.sent, h.passes, h.standing⟩

/-- The channel `c` has got the standing `p`, and `items` have been sent. -/
structure Becomes (c : ChannelId) (p : Standing) (items : List (Nat × Item ChannelId Message))
    (s s' : Transport) : Prop extends Fixed s s' where
  channels : s'.channels = s.channels
  sent : s'.outgoing.sent = s.outgoing.sent ++ items
  passes : ∀ ⦃before⦄, s.Passes before → s'.Passes (before ++ items.filterMap wireItem?)
  self : s'.standing c = p
  others : ∀ c', c' ≠ c → s'.standing c' = s.standing c'

/-- The channel `c` has been put into the slot `i`. -/
structure TakesSlot (c : ChannelId) (i : Nat) (p : Standing)
    (items : List (Nat × Item ChannelId Message)) (s s' : Transport) : Prop
    extends Fixed s s' where
  channels : s'.channels = Function.update s.channels i (some c)
  sent : s'.outgoing.sent = s.outgoing.sent ++ items
  passes : ∀ ⦃before⦄, s.Passes before → s'.Passes (before ++ items.filterMap wireItem?)
  self : s'.standing c = p
  others : ∀ c', c' ≠ c → s'.standing c' = s.standing c'

instance : IsPreorder Transport Unseen where
  refl s := ⟨.refl s, rfl, rfl, fun _ => id, fun _ => rfl⟩
  trans _ _ _ h h' := ⟨h.toFixed.trans h'.toFixed, h'.channels.trans h.channels,
    h'.sent.trans h.sent, fun _ hpasses => h'.passes (h.passes hpasses),
    fun c => (h'.standing c).trans (h.standing c)⟩

section Changes

variable {s s' s'' : Transport} {c : ChannelId} {p p' : Standing} {i : Nat}
  {items items' : List (Nat × Item ChannelId Message)}

/-- Nothing has been passed on. -/
theorem passes_nil {before : List WireItem} (h : s'.Passes before) : s'.Passes (before ++
    ([] : List (Nat × Item ChannelId Message)).filterMap wireItem?) := by
  rwa [List.filterMap_nil, List.append_nil]

theorem Unseen.becomes (h : Unseen s s') (c : ChannelId) : Becomes c (s.standing c) [] s s' :=
  ⟨h.toFixed, h.channels, by rw [h.sent, List.append_nil],
    fun _ hpasses => passes_nil (h.passes hpasses), h.standing c, fun c' _ => h.standing c'⟩

theorem Becomes.passes_trans (h' : Becomes c p' items' s' s'') {before : List WireItem}
    (h : s'.Passes (before ++ items.filterMap wireItem?)) :
    s''.Passes (before ++ (items ++ items').filterMap wireItem?) := by
  rw [List.filterMap_append, ← List.append_assoc]
  exact h'.passes h

theorem Becomes.trans (h : Becomes c p items s s') (h' : Becomes c p' items' s' s'') :
    Becomes c p' (items ++ items') s s'' :=
  ⟨h.toFixed.trans h'.toFixed, h'.channels.trans h.channels,
    by rw [h'.sent, h.sent, List.append_assoc],
    fun _ hpasses => h'.passes_trans (h.passes hpasses), h'.self,
    fun c' hc' => (h'.others c' hc').trans (h.others c' hc')⟩

theorem Becomes.trans_unseen (h : Becomes c p items s s') (h' : Unseen s' s'') :
    Becomes c p items s s'' := by
  have hboth := h.trans (h'.becomes c)
  rwa [h.self, List.append_nil] at hboth

theorem TakesSlot.trans (h : TakesSlot c i p items s s') (h' : Becomes c p' items' s' s'') :
    TakesSlot c i p' (items ++ items') s s'' :=
  ⟨h.toFixed.trans h'.toFixed, h'.channels.trans h.channels,
    by rw [h'.sent, h.sent, List.append_assoc],
    fun _ hpasses => h'.passes_trans (h.passes hpasses), h'.self,
    fun c' hc' => (h'.others c' hc').trans (h.others c' hc')⟩

end Changes

/-! ## Section 3: Sound transports -/

/-- A connected transport with `n` slots, whose channels are where they belong. -/
structure Sound (n : Nat) (s : Transport) : Prop where
  connected : s.state = .connected
  attached : s.flags.detached = false
  nChannels : s.nChannels = n
  known : SidsKnown s
  below : ∀ ⦃i c⦄, s.channels i = some c → i < n
  /-- A channel keeps its slot as long as it does not close. -/
  held : ∀ ⦃c i⦄, (s.standing c).sid = some i → (s.standing c).state.stage ≠ .leaving →
    s.channels i = some c
  consistent : ∀ c, (s.standing c).Consistent
  /-- Whoever has sent a message has done so on its own stream, as its terms allow it. -/
  sent : ∀ ⦃i c m⦄, (i, .message c m) ∈ s.outgoing.sent →
    (s.standing c).sid = some i ∧ (s.standing c).terms.Allow m
  forwards : s.Forwards

section Sound

variable {n : Nat} {s s' : Transport} {c : ChannelId} {p : Standing} {i : Nat}
  {items : List (Item ChannelId Message)}

theorem Sound.slot (h : Sound n s) (hslot : s.channels i = some c) :
    (s.standing c).sid = some i :=
  h.known.slot hslot

/-- A channel in a slot has a stream. -/
theorem Sound.registered (h : Sound n s) (hslot : s.channels i = some c) :
    (s.standing c).sid ≠ none := by
  rw [h.slot hslot]
  exact Option.some_ne_none i

/-- No channel is in two slots. -/
theorem Sound.slot_unique (h : Sound n s) {j : Nat} (hi : s.channels i = some c)
    (hj : s.channels j = some c) : j = i := by
  have hsame := (h.slot hj).symm.trans (h.slot hi)
  exact Option.some.inj hsame

/-- Another channel is in another slot. -/
theorem Sound.ne_of_slot (h : Sound n s) {c' : ChannelId} {j : Nat} (hi : s.channels i = some c)
    (hj : s.channels j = some c') (hne : j ≠ i) : c' ≠ c := by
  rintro rfl
  exact hne (h.slot_unique hi hj)

/-- A channel without a stream is in no slot. -/
theorem Sound.ne_of_unregistered (h : Sound n s) (hc : (s.standing c).sid = none) {c' : ChannelId}
    {j : Nat} (hj : s.channels j = some c') : c' ≠ c := by
  rintro rfl
  rw [h.slot hj] at hc
  cases hc

/-- An object that does not exist yet has no stream. -/
theorem Sound.unregistered_nextChannel (h : Sound n s) : (s.standing s.nextChannel).sid = none :=
  h.known.new le_rfl

/-- A channel without a stream has not introduced itself to the peer. -/
theorem Sound.not_user (h : Sound n s) (hc : (s.standing c).sid = none) (j : Nat) :
    c ∉ s.party.users j := by
  intro hmem
  obtain ⟨m, hm⟩ := Party.exists_sent_of_mem_users hmem
  rw [(h.sent hm).1] at hc
  cases hc

/-- Only what the peer can see matters. -/
theorem Sound.alike (h : Sound n s) (hstep : Alike s s') : Sound n s' where
  connected := hstep.state.trans h.connected
  attached := hstep.detached.trans h.attached
  nChannels := hstep.nChannels.trans h.nChannels
  known := by
    refine ⟨?_, ?_⟩
    · intro j c' hslot
      rw [hstep.channels] at hslot
      exact (congrArg Standing.sid (hstep.standing c')).trans (h.slot hslot)
    · intro c' hc'
      exact (congrArg Standing.sid (hstep.standing c')).trans
        (h.known.new (hstep.nextChannel.trans hc'))
  below j c' hslot := by
    rw [hstep.channels] at hslot
    exact h.below hslot
  held c' j hj hopen := by
    rw [hstep.standing] at hj hopen
    rw [hstep.channels]
    exact h.held hj hopen
  consistent c' := by
    rw [hstep.standing]
    exact h.consistent c'
  sent j c' m hm := by
    rw [hstep.sent] at hm
    rw [hstep.standing]
    exact h.sent hm
  forwards := by
    have hsent : s'.party.sent = s.party.sent := hstep.sent
    rw [Transport.Forwards, hsent]
    exact hstep.passes h.forwards

theorem Sound.unseen (h : Sound n s) (hstep : Unseen s s') : Sound n s' :=
  h.alike hstep.alike

/-- What has been sent is passed on. -/
theorem Sound.forwards_append {items : List (Nat × Item ChannelId Message)} (h : Sound n s)
    (hsent : s'.outgoing.sent = s.outgoing.sent ++ items) (hpasses : ∀ ⦃before⦄, s.Passes before →
      s'.Passes (before ++ items.filterMap wireItem?)) : s'.Forwards := by
  have hsent' : s'.party.sent = s.party.sent ++ items := hsent
  rw [Transport.Forwards, hsent', List.filterMap_append]
  exact hpasses h.forwards

/-- The standing of one channel changes. -/
theorem Sound.becomes {items : List (Nat × Item ChannelId Message)} (h : Sound n s)
    (hstep : Becomes c p items s s') (hsaid : p.Says c items)
    (hfollows : (s.standing c).Follows p) : Sound n s' := by
  -- nobody gets or loses a stream in this step
  have hsids : ∀ c', (s'.standing c').sid = (s.standing c').sid := by
    intro c'
    by_cases hc : c' = c
    · rw [hc, hstep.self, hfollows.sid]
    · rw [hstep.others c' hc]
  refine ⟨hstep.state.trans h.connected, hstep.detached.trans h.attached,
    hstep.nChannels.trans h.nChannels, ⟨?_, ?_⟩, ?_, ?_, ?_, ?_,
    h.forwards_append hstep.sent hstep.passes⟩
  · intro j c' hslot
    rw [hstep.channels] at hslot
    exact (hsids c').trans (h.slot hslot)
  · intro c' hc'
    exact (hsids c').trans (h.known.new (hstep.nextChannel.trans hc'))
  · intro j c' hslot
    rw [hstep.channels] at hslot
    exact h.below hslot
  · -- a channel that is not leaving was not leaving before, and has its slot
    intro c' j hj hopen
    rw [hsids] at hj
    rw [hstep.channels]
    apply h.held hj
    by_cases hc : c' = c
    · rw [hc] at hopen ⊢
      rw [hstep.self] at hopen
      exact fun hs => hopen (hfollows.leaving hs)
    · rwa [hstep.others c' hc] at hopen
  · intro c'
    by_cases hc : c' = c
    · rw [hc, hstep.self]
      exact hfollows.consistent
    · rw [hstep.others c' hc]
      exact h.consistent c'
  · -- what has been sent was in accord with the parameters, which stay the same
    intro j c' m hm
    rw [hstep.sent, List.mem_append] at hm
    rcases hm with hold | hnew
    · obtain ⟨hj, hallow⟩ := h.sent hold
      by_cases hc : c' = c
      · subst hc
        have hsame := hfollows.terms (by simp [hj])
        rw [hstep.self, hsame]
        exact ⟨hfollows.sid.trans hj, hallow⟩
      · rw [hstep.others c' hc]
        exact ⟨hj, hallow⟩
    · obtain ⟨rfl, hj, hallow⟩ := hsaid hnew
      rw [hstep.self]
      exact ⟨hj, hallow⟩

/-- A channel without a stream gets the stream of a free slot, and takes the slot. -/
theorem Sound.takesSlot {items : List (Nat × Item ChannelId Message)} (h : Sound n s)
    (hstep : TakesSlot c i p items s s') (hsaid : p.Says c items)
    (hnone : (s.standing c).sid = none)
    (hfree : s.channels i = none) (hbelow : i < n) (hexists : c < s.nextChannel)
    (hsid : p.sid = some i) (hp : p.Consistent) : Sound n s' := by
  -- slots other than `i` hold other channels
  have hslots : ∀ j c', s'.channels j = some c' → j = i ∧ c' = c ∨
      j ≠ i ∧ c' ≠ c ∧ s.channels j = some c' := by
    intro j c' hslot
    rw [hstep.channels] at hslot
    by_cases hj : j = i
    · subst hj
      rw [Function.update_self] at hslot
      exact .inl ⟨rfl, (Option.some.inj hslot).symm⟩
    · rw [Function.update_of_ne hj] at hslot
      exact .inr ⟨hj, h.ne_of_unregistered hnone hslot, hslot⟩
  refine ⟨hstep.state.trans h.connected, hstep.detached.trans h.attached,
    hstep.nChannels.trans h.nChannels, ⟨?_, ?_⟩, ?_, ?_, ?_, ?_,
    h.forwards_append hstep.sent hstep.passes⟩
  · intro j c' hslot
    rcases hslots j c' hslot with ⟨rfl, rfl⟩ | ⟨-, hc, hslot'⟩
    · exact (congrArg Standing.sid hstep.self).trans hsid
    · exact (congrArg Standing.sid (hstep.others c' hc)).trans (h.slot hslot')
  · intro c' hc'
    have hne : c' ≠ c := by
      rintro rfl
      exact absurd hexists (Nat.not_lt.mpr (hstep.nextChannel.trans hc'))
    exact (congrArg Standing.sid (hstep.others c' hne)).trans
      (h.known.new (hstep.nextChannel.trans hc'))
  · intro j c' hslot
    rcases hslots j c' hslot with ⟨rfl, -⟩ | ⟨-, -, hslot'⟩
    · exact hbelow
    · exact h.below hslot'
  · intro c' j hj hopen
    rw [hstep.channels]
    by_cases hc : c' = c
    · subst hc
      rw [hstep.self, hsid] at hj
      cases hj
      exact Function.update_self _ _ _
    · rw [hstep.others c' hc] at hj hopen
      have hslot := h.held hj hopen
      have hne : j ≠ i := by
        rintro rfl
        rw [hfree] at hslot
        cases hslot
      rw [Function.update_of_ne hne]
      exact hslot
  · intro c'
    by_cases hc : c' = c
    · rw [hc, hstep.self]
      exact hp
    · rw [hstep.others c' hc]
      exact h.consistent c'
  · intro j c' m hm
    rw [hstep.sent, List.mem_append] at hm
    rcases hm with hold | hnew
    · have hc : c' ≠ c := by
        rintro rfl
        rw [(h.sent hold).1] at hnone
        cases hnone
      rw [hstep.others c' hc]
      exact h.sent hold
    · obtain ⟨rfl, hj, hallow⟩ := hsaid hnew
      rw [hstep.self]
      exact ⟨hj, hallow⟩

/-- Clearing a slot leaves the other ones as they are. -/
theorem channels_of_setSlot_none {j : Nat} {c' : ChannelId}
    (h : (s.setSlot i none).channels j = some c') : s.channels j = some c' := by
  by_cases hj : j = i
  · subst hj
    simp [Transport.setSlot] at h
  · simpa [Transport.setSlot, hj] using h

/-- The slot of a channel that closes is cleared. -/
theorem Sound.clearSlot (h : Sound n s) (hslot : s.channels i = some c)
    (hleaving : (s.standing c).state.stage = .leaving) : Sound n (s.setSlot i none) := by
  refine ⟨h.connected, h.attached, h.nChannels, ⟨fun j c' hj => h.slot
    (channels_of_setSlot_none hj), h.known.new⟩, fun j c' hj => h.below
      (channels_of_setSlot_none hj), ?_, h.consistent, h.sent, h.forwards⟩
  intro c' j hj hopen
  have hj' := h.held hj hopen
  have hne : j ≠ i := by
    rintro rfl
    rw [hslot] at hj'
    cases hj'
    exact hopen hleaving
  simpa [Transport.setSlot, hne] using hj'

/-! ## Section 4: What the changes mean for the party -/

theorem Alike.party (h : Alike s s') : s'.party = s.party :=
  Transport.party_eq h.channels (fun _ c _ => by
    rw [Transport.occupant_eq, Transport.occupant_eq, h.standing]) h.sent

theorem Unseen.party (h : Unseen s s') : s'.party = s.party :=
  h.alike.party

/-- A channel in a slot changes. -/
theorem Becomes.party (h : Sound n s) (items : List (Item ChannelId Message))
    (hstep : Becomes c p (items.map (i, ·)) s s')
    (hslot : s.channels i = some c) :
    s'.party = s.party.put i (some (p.occupant c)) items := by
  have hoccupant : some (p.occupant c) = (some c).map s'.occupant := by
    rw [Option.map_some, Transport.occupant_eq, hstep.self]
  rw [hoccupant]
  apply Transport.party_eq_put _ _ hstep.sent
  · rw [hstep.channels, ← hslot, Function.update_eq_self]
  · intro j c' hj hc'
    rw [Transport.occupant_eq, Transport.occupant_eq,
      hstep.others c' (h.ne_of_slot hslot hc' hj)]

/-- Nothing changes for a channel in a slot. -/
theorem Transport.party_put_self (hslot : s.channels i = some c) :
    s.party.put i (some ((s.standing c).occupant c)) [] = s.party := by
  unfold Party.put
  rw [← Transport.occupant_eq, ← Transport.streams_party hslot, Function.update_eq_self]
  simp

/-- A channel without a stream changes. -/
theorem Becomes.party_of_unregistered (h : Sound n s) (hstep : Becomes c p [] s s')
    (hnone : (s.standing c).sid = none) : s'.party = s.party := by
  apply Transport.party_eq hstep.channels
  · intro j c' hc'
    rw [Transport.occupant_eq, Transport.occupant_eq,
      hstep.others c' (h.ne_of_unregistered hnone hc')]
  · rw [hstep.sent, List.append_nil]

/-- A channel without a stream takes a slot. -/
theorem TakesSlot.party (h : Sound n s) (items : List (Item ChannelId Message))
    (hstep : TakesSlot c i p (items.map (i, ·)) s s')
    (hnone : (s.standing c).sid = none) :
    s'.party = s.party.put i (some (p.occupant c)) items := by
  have hoccupant : some (p.occupant c) = (some c).map s'.occupant := by
    rw [Option.map_some, Transport.occupant_eq, hstep.self]
  rw [hoccupant]
  apply Transport.party_eq_put hstep.channels _ hstep.sent
  intro j c' _ hc'
  rw [Transport.occupant_eq, Transport.occupant_eq,
    hstep.others c' (h.ne_of_unregistered hnone hc')]

/-- A slot is cleared. -/
theorem Transport.party_setSlot_none (s : Transport) (i : Nat) :
    (s.setSlot i none).party = s.party.put i none [] := by
  have hsent : (s.setSlot i none).outgoing.sent = s.outgoing.sent ++ [].map (i, ·) := by
    simp [Transport.setSlot, Transport.outgoing]
  have hslots : (s.setSlot i none).channels = Function.update s.channels i none := rfl
  exact Transport.party_eq_put hslots (fun _ _ _ _ => rfl) hsent

end Sound

/-! ## Section 5: Single changes -/

/-- What is recorded may have become known as sent with this event, or usrsctp may have been given
    something. -/
def Event.tells : Event → Bool
  | .messageAccepted _ | .slotRef _ _ | .sendv _ _ _ _ | .resetStreams _ _ none => true
  | _ => false

theorem Event.isGiving_of_not_tells {e : Event} (h : e.tells = false) : e.isGiving = false := by
  cases e with
  | sendv => cases h
  | resetStreams c sid error =>
    cases error with
    | none => cases h
    | some error => rfl
  | _ => rfl

section Single

variable (s : Transport) {c : ChannelId}

theorem Fixed.log {e : Event} (he : e.handed = none) : Fixed s (s.log e) := by
  refine ⟨⟨rfl, fun _ => id, ?_⟩, rfl, rfl, rfl, le_refl _⟩
  rw [Transport.handed_log, he]
  exact List.append_nil _

/-- A channel changes, and nothing is received on it. -/
theorem Fixed.modifyChannel {f : DataChannel → DataChannel}
    (hf : (((s.dataChannels c).transportArg.getD {}).bufferInbound = none →
      ((f (s.dataChannels c)).transportArg.getD {}).bufferInbound = none)) :
    Fixed s (s.modifyChannel c f) := by
  refine ⟨⟨rfl, ?_, rfl⟩, rfl, rfl, rfl, le_refl _⟩
  intro c' hc'
  by_cases hc : c' = c
  · subst hc
    simpa [Transport.context, Transport.modifyChannel] using hf hc'
  · simpa [Transport.context, Transport.modifyChannel, hc] using hc'

/-- Only what concerns neither the channels nor what has happened has changed. -/
theorem Fixed.of_eq {s' : Transport} (hdcep : s'.bufferDcepInbound = s.bufferDcepInbound)
    (hstate : s'.state = s.state) (hdetached : s'.flags.detached = s.flags.detached)
    (hn : s'.nChannels = s.nChannels) (hnext : s'.nextChannel = s.nextChannel)
    (hdata : s'.dataChannels = s.dataChannels) (hhistory : s'.history = s.history) :
    Fixed s s' := by
  refine ⟨⟨hdcep, ?_, ?_⟩, hstate, hdetached, hn, hnext.ge⟩
  · intro c hc
    rwa [Transport.context, hdata]
  · rw [Transport.handed, hhistory]
    rfl

theorem Unseen.of_eq {s' : Transport} (hdcep : s'.bufferDcepInbound = s.bufferDcepInbound)
    (hstate : s'.state = s.state) (hdetached : s'.flags.detached = s.flags.detached)
    (hn : s'.nChannels = s.nChannels) (hnext : s'.nextChannel = s.nextChannel)
    (hchannels : s'.channels = s.channels) (hdata : s'.dataChannels = s.dataChannels)
    (hqueue : s'.bufferedMessagesOutgoing = s.bufferedMessagesOutgoing)
    (hhistory : s'.history = s.history) : Unseen s s' := by
  have hfixed := Fixed.of_eq s hdcep hstate hdetached hn hnext hdata hhistory
  refine ⟨hfixed, hchannels, by rw [Transport.outgoing, hhistory]; rfl, ?_, ?_⟩
  · intro items hitems
    rwa [Transport.Passes, Transport.wire, hqueue, hhistory]
  intro c
  simp only [Transport.standing, Transport.streamId, Transport.context, Transport.resetRequested,
    hdata, hhistory]

theorem sent_log_of_not_tells {e : Event} (h : e.tells = false) :
    (s.log e).outgoing.sent = s.outgoing.sent := by
  rw [Transport.outgoing_log]
  cases e with
  | resetStreams c sid error =>
    cases error with
    | none => cases h
    | some error => rfl
  | messageAccepted | slotRef => cases h
  | _ => rfl

theorem Alike.log {e : Event} (h : e.tells = false) : Alike s (s.log e) := by
  refine ⟨rfl, rfl, rfl, le_refl _, rfl, sent_log_of_not_tells s h,
    fun _ hpasses => hpasses.log (Event.isGiving_of_not_tells h), ?_⟩
  intro c
  have hrequests : e.requestsReset c = false := by
    cases e with
    | resetStreams c sid error =>
      cases error with
      | none => cases h
      | some error => rfl
    | _ => rfl
  rw [Transport.standing_log, hrequests, Bool.or_false]
  rfl

theorem Unseen.log {e : Event} (h : e.tells = false) (he : e.handed = none) :
    Unseen s (s.log e) :=
  (Alike.log s h).unseen (Fixed.log s he)

/-- Whatever changes a channel. -/
theorem Becomes.modifyChannel (f : DataChannel → DataChannel)
    (hfixed : Fixed s (s.modifyChannel c f)) :
    Becomes c ((s.modifyChannel c f).standing c) [] s (s.modifyChannel c f) :=
  ⟨hfixed, rfl, (List.append_nil _).symm, fun _ => passes_nil, rfl,
    fun _ hc' => s.standing_modifyChannel_of_ne hc' f⟩

/-- Changes of a channel that do not touch its standing. -/
theorem Alike.modifyChannel {f : DataChannel → DataChannel}
    (h : (s.modifyChannel c f).standing c = s.standing c) : Alike s (s.modifyChannel c f) := by
  refine ⟨rfl, rfl, rfl, le_refl _, rfl, rfl, fun _ => id, ?_⟩
  intro c'
  by_cases hc : c' = c
  · rw [hc, h]
  · exact s.standing_modifyChannel_of_ne hc f

/-- Changes of a channel that concern neither its terms nor its state nor its stream. -/
theorem Unseen.modifyChannel {f : DataChannel → DataChannel}
    (hf : ∀ ch, (f ch).parameters = ch.parameters ∧ (f ch).state = ch.state ∧
      (f ch).transportArg = ch.transportArg ∧
      (f ch).flags.incomingStreamReset = ch.flags.incomingStreamReset ∧
      (f ch).flags.outgoingStreamReset = ch.flags.outgoingStreamReset) :
    Unseen s (s.modifyChannel c f) := by
  obtain ⟨hparameters, hstate, harg, hin, hout⟩ := hf (s.dataChannels c)
  have hfixed : Fixed s (s.modifyChannel c f) := Fixed.modifyChannel s (by rw [harg]; exact id)
  apply (Alike.modifyChannel s _).unseen hfixed
  rw [s.standing_modifyChannel_self, hparameters, hstate, harg, hin, hout]
  rfl

theorem standing_modifyContext (f : Context → Context) (c : ChannelId) :
    (s.modifyContext c f).standing c = { s.standing c with
      sid := ((s.dataChannels c).transportArg.map f).map Context.sid
      unordered := (((s.dataChannels c).transportArg.map f).getD {}).flags.canSendUnordered
      pending := (((s.dataChannels c).transportArg.map f).getD {}).flags.pendingStreamReset } :=
  s.standing_modifyChannel_self c _

/-- A context changes, and nothing is received. -/
theorem Fixed.modifyContext {f : Context → Context}
    (hf : ∀ x, x.bufferInbound = none → (f x).bufferInbound = none) :
    Fixed s (s.modifyContext c f) := by
  apply Fixed.modifyChannel
  cases harg : (s.dataChannels c).transportArg with
  | none => simp
  | some context => simpa using hf context

/-- Changes of a context that only concern what has been received. -/
theorem Alike.modifyContext {f : Context → Context} (hsid : ∀ x, (f x).sid = x.sid)
    (hunordered : ∀ x, (f x).flags.canSendUnordered = x.flags.canSendUnordered)
    (hpending : ∀ x, (f x).flags.pendingStreamReset = x.flags.pendingStreamReset) :
    Alike s (s.modifyContext c f) := by
  apply Alike.modifyChannel
  refine (standing_modifyContext s f c).trans ?_
  cases harg : (s.dataChannels c).transportArg <;>
    simp [Transport.standing, Transport.streamId, Transport.context, harg, hsid, hunordered,
      hpending]

end Single

/-! ## Section 6: Messages -/

/-- What `rawrtc_data_channel_set_state` does before it calls a handler. -/
def Transport.enterState (s : Transport) (c : ChannelId) (state : DataChannelState) : Transport :=
  (s.modifyChannel c ({ · with state := state })).log (.channelState c state)

/-- What `channel_register` does before it calls a handler. -/
def Transport.register (s : Transport) (c : ChannelId) (context : Context) : Transport :=
  ((s.modifyChannel c ({ · with transportArg := some context })).setSlot context.sid (some c)).log
    (.slotRef c (s.channels context.sid))

section Passed

variable {s s₁ : Transport} {c : ChannelId} {i : Nat} {info : SendvSpa} {bytes : Bytes}
  {m : Message}

theorem SendsOnly.channels (h : SendsOnly s s₁) : s₁.channels = s.channels := by
  obtain ⟨low, queue, es, rfl, -⟩ := h
  rfl

/-- What sending a message gives rise to tells nothing of what has been sent. -/
theorem SendsOnly.outgoing (h : SendsOnly s s₁) : s₁.outgoing = s.outgoing := by
  obtain ⟨low, queue, es, rfl, hes, -⟩ := h
  suffices hrecord : ∀ o : Outgoing, es.foldl Outgoing.record o = o by
    rw [Transport.outgoing, Outgoing.ofHistory, Transport.afterSends, List.foldl_append]
    exact hrecord _
  induction es with
  | nil => exact fun _ => rfl
  | cons e es ih =>
    have hsending := hes e List.mem_cons_self
    intro o
    have he : o.record e = o := by
      cases e <;> first | rfl | cases hsending
    rw [List.foldl_cons, he]
    exact ih (fun e' he' => hes e' (List.mem_cons_of_mem _ he')) o

theorem SendsOnly.standing (h : SendsOnly s s₁) (c : ChannelId) : s₁.standing c = s.standing c := by
  obtain ⟨low, queue, es, rfl, hes, -⟩ := h
  have hnone : es.any (Event.requestsReset c) = false := by
    rw [List.any_eq_false]
    intro e he
    have hsending := hes e he
    cases e <;> first | exact Bool.false_ne_true | cases hsending
  have hrequested : (s.afterSends low queue es).resetRequested c = s.resetRequested c := by
    rw [Transport.resetRequested, Transport.afterSends, List.any_append, hnone, Bool.or_false]
    rfl
  simp only [Transport.standing, hrequested]
  rfl

/-- Nothing is handed over meanwhile. -/
theorem SendsOnly.fixed (h : SendsOnly s s₁) : Fixed s s₁ := by
  obtain ⟨low, queue, es, rfl, hes, -⟩ := h
  have hnone : es.filterMap Event.handed = [] := by
    rw [List.filterMap_eq_nil_iff]
    intro e he
    have hsending := hes e he
    cases e <;> first | rfl | cases hsending
  refine ⟨⟨rfl, fun _ => id, ?_⟩, rfl, rfl, rfl, le_refl _⟩
  rw [Transport.handed, Transport.afterSends, List.filterMap_append, hnone, List.append_nil]
  rfl

/-- Messages that wait are given to usrsctp. -/
theorem Unseen.of_sendsOnly (h : SendsOnly s s₁)
    (hpasses : ∀ ⦃items⦄, s.Passes items → s₁.Passes items) : Unseen s s₁ :=
  ⟨h.fixed, h.channels, by rw [h.outgoing], hpasses, h.standing⟩

theorem Passed.fixed (h : Passed info bytes s s₁) : Fixed s s₁ :=
  (Fixed.log s rfl).trans h.sends.fixed

theorem Passed.channels (h : Passed info bytes s s₁) : s₁.channels = s.channels :=
  h.sends.channels

theorem Passed.standing (h : Passed info bytes s s₁) (c : ChannelId) :
    s₁.standing c = s.standing c := by
  rw [h.sends.standing]
  exact (Alike.log s rfl).standing c

/-- It is not known yet which channel sends the message. -/
theorem Passed.outgoing (h : Passed info bytes s s₁) :
    s₁.outgoing = ⟨some (info, bytes), s.outgoing.sent⟩ := by
  rw [h.sends.outgoing, Transport.outgoing_log]
  rfl

/-- What usrsctp has to be given for it. -/
theorem Passed.passes_message (h : Passed info bytes s s₁)
    (hm : Message.ofSent? info bytes = some m) {before : List WireItem} (hbefore : s.Passes before) :
    s₁.Passes (before ++ [(i, .message c m)].filterMap wireItem?) := by
  obtain ⟨hinfo, hbytes⟩ := Message.ofSent?_eq_some hm
  have hitem : [(i, Item.message c m)].filterMap wireItem? = [.message (.spa info) 0 bytes] := by
    rw [← hinfo, ← hbytes]
    rfl
  rw [hitem]
  exact h.passes hbefore

/-- What becomes known as sent once the channel is known. -/
theorem Passed.sent (h : Passed info bytes s s₁) (hm : Message.ofSent? info bytes = some m)
    (hsid : info.sendvSndinfo.sndSid = i) (e : Event)
    (he : ∀ o : Outgoing, o.record e = o.complete c) :
    (s₁.log e).outgoing.sent = s.outgoing.sent ++ [(i, .message c m)] := by
  rw [Transport.outgoing_log, h.outgoing, he]
  simp [Outgoing.complete, hm, hsid]

/-- The message has been accepted for a channel. -/
theorem Passed.accepted (h : Passed info bytes s s₁) (hm : Message.ofSent? info bytes = some m)
    (hsid : info.sendvSndinfo.sndSid = i) :
    Becomes c (s.standing c) [(i, .message c m)] s (s₁.log (.messageAccepted c)) := by
  have hstanding : ∀ c', (s₁.log (.messageAccepted c)).standing c' = s.standing c' := by
    intro c'
    rw [Transport.standing_log, ← h.standing c']
    simp [Event.requestsReset, Transport.standing]
  have hfixed : Fixed s (s₁.log (.messageAccepted c)) := h.fixed.trans (Fixed.log s₁ rfl)
  exact ⟨hfixed, h.channels, h.sent hm hsid _ fun _ => rfl,
    fun _ hbefore => (h.passes_message hm hbefore).log rfl, hstanding c, fun c' _ => hstanding c'⟩

/-- The channel that the message introduces takes its slot. -/
theorem Passed.takesSlot (h : Passed info bytes s s₁) (hm : Message.ofSent? info bytes = some m)
    (hsid : info.sendvSndinfo.sndSid = i) (context : Context) (hcontext : context.sid = i)
    (hbuffer : context.bufferInbound = none) :
    TakesSlot c i { s.standing c with
        sid := some i
        unordered := context.flags.canSendUnordered
        pending := context.flags.pendingStreamReset } [(i, .message c m)] s
      (s₁.register c context) := by
  subst hcontext
  -- registering neither delivers anything nor puts anything into a buffer
  have hfixed : Fixed s (s₁.register c context) := by
    have hcontext : Fixed s₁ (s₁.modifyChannel c ({ · with transportArg := some context })) :=
      Fixed.modifyChannel s₁ fun _ => hbuffer
    have hslot : Fixed (s₁.modifyChannel c ({ · with transportArg := some context }))
        ((s₁.modifyChannel c ({ · with transportArg := some context })).setSlot context.sid
          (some c)) := .of_eq _ rfl rfl rfl rfl rfl rfl rfl
    exact h.fixed.trans ((hcontext.trans hslot).trans (Fixed.log _ rfl))
  refine ⟨hfixed, ?_, h.sent hm hsid _ fun _ => rfl, ?_, ?_, ?_⟩
  · rw [← h.channels]
    rfl
  · -- taking the slot gives nothing to usrsctp
    intro before hbefore
    have hpasses := h.passes_message (c := c) (i := context.sid) hm hbefore
    exact Transport.Passes.log (t := (s₁.modifyChannel c
      ({ · with transportArg := some context })).setSlot context.sid (some c)) hpasses rfl
  · rw [← h.standing c]
    simp [Transport.standing, Transport.streamId, Transport.context, Transport.resetRequested,
      Transport.register, Transport.log, Transport.setSlot, Transport.modifyChannel,
      Event.requestsReset]
  · intro c' hc'
    rw [← h.standing c']
    simp [Transport.standing, Transport.streamId, Transport.context, Transport.resetRequested,
      Transport.register, Transport.log, Transport.setSlot, Transport.modifyChannel, hc',
      Event.requestsReset]

end Passed

end RawrtcDataChannel
