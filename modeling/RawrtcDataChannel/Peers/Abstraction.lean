import Mathlib.Order.Lattice
import RawrtcDataChannel.Negotiation.OpenCodec
import RawrtcDataChannel.Streams.Safety
import RawrtcDataChannel.Transfer.SystemRoutines
import RawrtcDataChannel.Transfer.UserMessages

/-!
# A transport as a party

What the peer can know of a transport: which channels are at which streams, how far their closing
has come, and what has been sent. `Transport.party` reads this off a transport and its history.
`Transport.handed` reads off what the application has been handed.

A message is sent by a channel. `send_message` does not say which one, but right after it succeeds
either the message is accepted for a channel, or the channel that it introduces takes its slot.
-/

namespace RawrtcDataChannel

open Streams

/-! ## Section 1: Messages -/

/-- What both ends of a channel have to agree on. -/
structure Terms where
  label : Bytes
  protocol : Bytes
  channelType : DataChannelType
  reliabilityParameter : UInt32
deriving DecidableEq

/-- The part of the parameters that the peer gets to know. -/
def DataChannelParameters.terms (parameters : DataChannelParameters) : Terms where
  label := stringBytes parameters.label
  protocol := stringBytes parameters.protocol
  channelType := parameters.channelType
  reliabilityParameter := parameters.reliabilityParameter

/-- The parameters in an OPEN message that can be parsed. -/
def openParameters : Bytes → Option DataChannelParameters
  | [] => none
  | messageType :: bytes =>
    if messageType = dcepMessageTypeOpen then (decodeOpen bytes).map (·.1) else none

/-- The message of an application that looks like this on the wire, if there is one. -/
def UserMessage.ofWire? (ppid : Nat) (bytes : Bytes) : Option UserMessage :=
  [⟨[], false⟩, ⟨[], true⟩, ⟨bytes, false⟩, ⟨bytes, true⟩].find? fun u =>
    u.ppid = ppid ∧ u.payload = bytes

theorem UserMessage.ofWire?_eq_some {ppid : Nat} {bytes : Bytes} {u : UserMessage}
    (h : ofWire? ppid bytes = some u) : u.ppid = ppid ∧ u.payload = bytes := by
  simpa using List.find?_some h

/-- What has been sent can be read off the wire. -/
theorem UserMessage.ofWire?_eq (u : UserMessage) : ofWire? u.ppid u.payload = some u := by
  have hmem : u ∈ [⟨[], false⟩, ⟨[], true⟩, ⟨u.payload, false⟩, ⟨u.payload, true⟩] := by
    obtain ⟨bytes, isBinary⟩ := u
    by_cases hempty : bytes = []
    · cases isBinary <;> simp [hempty]
    · cases isBinary <;> simp [payload, hempty]
  have hsome : (ofWire? u.ppid u.payload).isSome = true :=
    List.find?_isSome.mpr ⟨u, hmem, by simp⟩
  obtain ⟨v, hv⟩ := Option.isSome_iff_exists.mp hsome
  obtain ⟨hppid, hpayload⟩ := ofWire?_eq_some hv
  have hsame : v.record 0 = u.record 0 := by
    rw [record, record, hppid, hpayload]
  rw [hv, record_injective 0 hsame]

/-- A message with the information it is sent with. DCEP messages are sent ordered and reliably, and
    other messages can be read by the peer. -/
structure Message where
  info : SendvSpa
  bytes : Bytes
  dcep : info.sendvSndinfo.sndPpid = ppidDcep →
    info.sendvSndinfo.unordered = false ∧ info.prinfoValid = false ∧
      ((openParameters bytes).isSome = true ∨ bytes = [dcepMessageTypeAck])
  user : info.sendvSndinfo.sndPpid ≠ ppidDcep →
    (UserMessage.ofWire? info.sendvSndinfo.sndPpid bytes).isSome = true
deriving DecidableEq

namespace Message

/-- The message is one of the data channel establishment protocol. -/
def isDcep (m : Message) : Bool :=
  m.info.sendvSndinfo.sndPpid = ppidDcep

/-- What the application is to be handed when the message is received. -/
def content (m : Message) : Option UserMessage :=
  UserMessage.ofWire? m.info.sendvSndinfo.sndPpid m.bytes

/-- DCEP messages have no content. -/
theorem content_of_dcep {m : Message} (h : m.isDcep = true) : m.content = none := by
  cases hm : m.content with
  | none => rfl
  | some u =>
    have hppid := (UserMessage.ofWire?_eq_some hm).1
    have hdcep : m.info.sendvSndinfo.sndPpid = ppidDcep := by simpa [isDcep] using h
    exact absurd (hppid.trans hdcep) u.ppid_ne_dcep

/-- The message that is sent with this information, if it is one. -/
def ofSent? (info : SendvSpa) (bytes : Bytes) : Option Message :=
  if h : (info.sendvSndinfo.sndPpid = ppidDcep →
      info.sendvSndinfo.unordered = false ∧ info.prinfoValid = false ∧
        ((openParameters bytes).isSome = true ∨ bytes = [dcepMessageTypeAck])) ∧
      (info.sendvSndinfo.sndPpid ≠ ppidDcep →
        (UserMessage.ofWire? info.sendvSndinfo.sndPpid bytes).isSome = true) then
    some ⟨info, bytes, h.1, h.2⟩
  else none

theorem ofSent?_eq (m : Message) : ofSent? m.info m.bytes = some m :=
  dif_pos ⟨m.dcep, m.user⟩

theorem ofSent?_eq_some {info : SendvSpa} {bytes : Bytes} {m : Message}
    (h : ofSent? info bytes = some m) : m.info = info ∧ m.bytes = bytes := by
  unfold ofSent? at h
  split at h
  · cases h
    exact ⟨rfl, rfl⟩
  · cases h

end Message

instance : Vocabulary Message Terms where
  proposal m := if m.isDcep then (openParameters m.bytes).map (·.terms) else none
  greets m := m.isDcep
  unordered m := m.info.sendvSndinfo.unordered
  lossy m := m.info.prinfoValid
  relaxed terms := terms.channelType.isUnordered
  greets_of_proposal m h := by
    by_contra hm
    simp [hm] at h
  ordered_of_greets m h := (m.dcep (by simpa [Message.isDcep] using h)).1
  lossless_of_greets m h := (m.dcep (by simpa [Message.isDcep] using h)).2.1

/-- Parameters whose strings are short enough. -/
def DataChannelParameters.Fits (parameters : DataChannelParameters) : Prop :=
  (stringBytes parameters.label).length ≤ 2 ^ 16 - 1 ∧
    (stringBytes parameters.protocol).length ≤ 2 ^ 16 - 1

theorem nulFree_stringBytes (s : Option Bytes) : NulFree (stringBytes s) := by
  intro h
  simpa using List.mem_takeWhile_imp h

/-- The peer reads off an OPEN message what its sender has to agree on. -/
theorem openParameters_openMessageBytes {parameters : DataChannelParameters}
    (h : parameters.Fits) :
    (openParameters (openMessageBytes parameters)).map (·.terms) = some parameters.terms := by
  -- the strings are written up to their terminators
  let written : DataChannelParameters := { parameters with
    label := some (stringBytes parameters.label)
    protocol := some (stringBytes parameters.protocol) }
  have hstring : ∀ s : Option Bytes, stringBytes (some (stringBytes s)) = stringBytes s :=
    fun s => cString_of_nulFree (nulFree_stringBytes s)
  have hbytes : openMessageBytes parameters = openMessageBytes written := by
    simp only [openMessageBytes, written, hstring]
  have hlength : (2 : Nat) ^ 16 - 1 < 2 ^ 16 := by decide
  have hencodable : written.Encodable :=
    ⟨nulFree_stringBytes _, Nat.lt_of_le_of_lt h.1 hlength, nulFree_stringBytes _,
      Nat.lt_of_le_of_lt h.2 hlength⟩
  have hdecode := decodeOpen_openMessageBytes hencodable []
  rw [List.append_nil] at hdecode
  have hcons : openMessageBytes written =
      dcepMessageTypeOpen :: (openMessageBytes written).drop 1 := rfl
  rw [hbytes, hcons, openParameters, if_pos rfl, hdecode, Option.map_some, Option.map_some]
  have hpresent : ∀ s : Option Bytes, stringBytes (presentString (stringBytes s)) = stringBytes s :=
    fun s => stringBytes_presentString (nulFree_stringBytes s)
  have hreliability : (if parameters.channelType.isReliable then 0
      else parameters.reliabilityParameter) = parameters.reliabilityParameter := by
    split
    · next hreliable => exact (parameters.reliability_eq_zero hreliable).symm
    · rfl
  simp only [DataChannelParameters.terms, DataChannelParameters.announced,
    DataChannelParameters.ofFields, written, Option.getD_some, hpresent, hreliability]

/-! ## Section 2: What has been sent -/

/-- What a history tells about the items that have been sent. A message of which `send_message` has
    been told waits until the channel is known that sends it. -/
structure Outgoing where
  waiting : Option (SendvSpa × Bytes) := none
  sent : List (Nat × Item ChannelId Message) := []

namespace Outgoing

/-- The waiting message, if any, is sent by this channel. -/
def complete (o : Outgoing) (c : ChannelId) : Outgoing where
  waiting := none
  sent := o.sent ++ (match o.waiting with
    | none => []
    | some (info, bytes) =>
      (Message.ofSent? info bytes).toList.map fun m => (info.sendvSndinfo.sndSid, .message c m))

/-- One more event. Between `send_message` and the end of the routine that calls it nothing happens
    but what belongs to sending. -/
def record (o : Outgoing) : Event → Outgoing
  | .sendMessage info bytes => { o with waiting := some (info, bytes) }
  | .sendv _ _ _ _ | .derefUnset => o
  | .messageAccepted c | .slotRef c _ => o.complete c
  | .resetStreams _ sid none => { waiting := none, sent := o.sent ++ [(sid, .reset)] }
  | _ => { o with waiting := none }

/-- Everything that a history tells. -/
def ofHistory (history : List Event) : Outgoing :=
  history.foldl record {}

/-- Messages are sent on the streams that usrsctp is told. -/
def OnStreams (o : Outgoing) : Prop :=
  ∀ ⦃sid c m⦄, (sid, .message c m) ∈ o.sent → m.info.sendvSndinfo.sndSid = sid

theorem OnStreams.complete {o : Outgoing} (h : o.OnStreams) (c : ChannelId) :
    (o.complete c).OnStreams := by
  intro sid c' m hm
  rcases List.mem_append.mp hm with hm | hm
  · exact h hm
  · cases hwaiting : o.waiting with
    | none => simp [hwaiting] at hm
    | some w =>
      simp only [hwaiting, List.mem_map, Option.mem_toList, Prod.mk.injEq] at hm
      obtain ⟨m', hsent, hsid, heq⟩ := hm
      cases heq
      rw [(Message.ofSent?_eq_some hsent).1, hsid]

theorem onStreams_ofHistory (history : List Event) : (ofHistory history).OnStreams := by
  have hrecord : ∀ (o : Outgoing) (e : Event), o.OnStreams → (o.record e).OnStreams := by
    intro o e h
    cases e with
    | messageAccepted c | slotRef c => exact h.complete c
    | resetStreams c sid error =>
      cases error with
      | none =>
        intro j c' m hm
        rcases List.mem_append.mp hm with hm | hm
        · exact h hm
        · cases List.mem_singleton.mp hm
      | some error => exact h
    | _ => exact h
  have hfold : ∀ (events : List Event) (o : Outgoing), o.OnStreams →
      (events.foldl record o).OnStreams := by
    intro events
    induction events with
    | nil => exact fun o h => h
    | cons e events ih => exact fun o h => ih _ (hrecord o e h)
  exact hfold history {} (by simp [OnStreams])

end Outgoing

/-- What usrsctp has to be given for an item. It answers requests of the peer on its own. -/
def wireItem? : Nat × Item ChannelId Message → Option WireItem
  | (_, .message _ m) => some (.message (.spa m.info) 0 m.bytes)
  | (sid, .reset) => some (.reset sid)
  | (_, .response) => none

/-- The complete message that the event hands to the application. -/
def Event.handed : Event → Option (ChannelId × UserMessage)
  | .handler (.messageHandler c (some bytes) messageFlags) =>
    if messageFlags.isComplete then some (c, ⟨bytes, messageFlags.isBinary⟩) else none
  | _ => none

/-- The event requests the reset of a channel's stream, with success. -/
def Event.requestsReset (c : ChannelId) : Event → Bool
  | .resetStreams c' _ none => c' = c
  | _ => false

namespace Transport

variable (t : Transport)

/-- What has been sent. -/
def outgoing : Outgoing :=
  .ofHistory t.history

/-- The reset of a channel's stream has been requested. -/
def resetRequested (c : ChannelId) : Bool :=
  t.history.any (Event.requestsReset c)

/-- The complete messages that the application has been handed. -/
def handed : List (ChannelId × UserMessage) :=
  t.history.filterMap Event.handed

@[simp] theorem handed_log (e : Event) : (t.log e).handed = t.handed ++ e.handed.toList := by
  cases h : e.handed <;> simp [handed, log, h]

@[simp] theorem outgoing_log (e : Event) : (t.log e).outgoing = t.outgoing.record e := by
  simp [outgoing, Outgoing.ofHistory, log]

@[simp] theorem resetRequested_log (e : Event) (c : ChannelId) :
    (t.log e).resetRequested c = (t.resetRequested c || e.requestsReset c) := by
  simp [resetRequested, log]

end Transport

/-! ## Section 3: Transports as parties -/

/-- How far a channel in this state has come. -/
def DataChannelState.stage : DataChannelState → Stage
  | .connecting => .announced
  | .opened => .opened
  | .closing | .closed => .leaving

theorem announced_iff {state : DataChannelState} :
    state.stage = .announced ↔ state = .connecting := by
  cases state <;> simp [DataChannelState.stage]

theorem opened_iff {state : DataChannelState} : state.stage = .opened ↔ state = .opened := by
  cases state <;> simp [DataChannelState.stage]

/-- Whoever has begun to close is leaving. -/
theorem leaving_iff {state : DataChannelState} :
    state.stage = .leaving ↔ state = .closing ∨ state = .closed := by
  cases state <;> simp [DataChannelState.stage]

theorem leaving_of_le {state : DataChannelState} (h : .closing ≤ state) :
    state.stage = .leaving := by
  have hle : DataChannelState.closing.toNat ≤ state.toNat := h
  cases state with
  | closing | closed => rfl
  | connecting | opened => simp [DataChannelState.toNat] at hle

namespace Transport

variable (t : Transport)

/-- A channel at its end of a stream. -/
def occupant (c : ChannelId) : Occupant ChannelId Terms where
  channel := c
  terms := (t.dataChannels c).parameters.terms
  stage := (t.dataChannels c).state.stage
  unordered := (t.context c).flags.canSendUnordered
  incoming := (t.dataChannels c).flags.incomingStreamReset
  outgoing := (t.dataChannels c).flags.outgoingStreamReset
  requested := t.resetRequested c

/-- The transport as its peer knows it. -/
def party : Party ChannelId Terms Message where
  streams sid := (t.channels sid).map t.occupant
  sent := t.outgoing.sent

/-- Whatever the party has sent has been given to usrsctp or waits in the queue, in the order in
    which it has been sent. -/
def Forwards : Prop :=
  t.Passes (t.party.sent.filterMap wireItem?)

variable {t} {t' : Transport} {c : ChannelId} {sid : Nat}

theorem streams_party (h : t.channels sid = some c) :
    t.party.streams sid = some (t.occupant c) := by
  simp [party, h]

/-- Nothing the peer could know has changed. -/
theorem party_eq (hslots : t'.channels = t.channels)
    (hoccupants : ∀ sid c, t.channels sid = some c → t'.occupant c = t.occupant c)
    (hsent : t'.outgoing.sent = t.outgoing.sent) : t'.party = t.party := by
  unfold party
  rw [hslots, hsent]
  congr 1
  funext sid
  cases hc : t.channels sid with
  | none => rfl
  | some c => simp [hoccupants sid c hc]

/-- One end has changed, and items were sent on its stream. -/
theorem party_eq_put {o : Option ChannelId} {items : List (Item ChannelId Message)}
    (hslots : t'.channels = Function.update t.channels sid o)
    (hoccupants : ∀ j c, j ≠ sid → t.channels j = some c → t'.occupant c = t.occupant c)
    (hsent : t'.outgoing.sent = t.outgoing.sent ++ items.map (sid, ·)) :
    t'.party = t.party.put sid (o.map t'.occupant) items := by
  unfold party Party.put
  rw [hslots, hsent]
  congr 1
  funext j
  by_cases hj : j = sid
  · subst hj
    simp
  · simp only [Function.update_of_ne hj]
    cases hc : t.channels j with
    | none => rfl
    | some c => simp [hoccupants j c hj hc]

end Transport

end RawrtcDataChannel
