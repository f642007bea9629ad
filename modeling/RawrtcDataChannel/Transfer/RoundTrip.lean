import RawrtcDataChannel.Transfer.UserMessages
import RawrtcDataChannel.Reentrant.Machine

/-!
# Sending and receiving are inverse

One endpoint sends messages on ordered reliable channels. SCTP carries them, keeps the order on
each stream, and delivers them in pieces, as it likes. The other endpoint receives the pieces. Its
message handlers are called with the messages that were sent.

The receiving side is a refinement of the abstract reassembly: each channel's buffer holds the
message its stream is in the middle of.
-/

namespace RawrtcDataChannel

open Reentrant Reassembly

/-! ## Section 1: What is sent -/

/-- A call of `rawrtc_data_channel_send`. -/
structure SendRequest where
  channel : ChannelId
  buffer : Option Mbuf
  isBinary : Bool

/-- The message that is to be sent. -/
def SendRequest.message (x : SendRequest) : UserMessage :=
  .ofBuffer x.buffer x.isBinary

/-- The message, if the call succeeds. -/
def SendRequest.accepted? : SendRequest × Result → Option (ChannelId × UserMessage)
  | (x, .code .success) => some (x.channel, x.message)
  | _ => none

/-- The messages that have been accepted, in order, with the channels they were sent on. -/
def sentMessages (done : List (SendRequest × Result)) : List (ChannelId × UserMessage) :=
  done.filterMap SendRequest.accepted?

/-- What has been passed to SCTP. -/
def records (history : List Event) : List (SendvSpa × Bytes) :=
  history.filterMap fun
    | .sendMessage info message => some (info, message)
    | _ => none

@[simp] theorem records_append (history history' : List Event) :
    records (history ++ history') = records history ++ records history' := by
  simp [records]

/-- What SCTP has to carry on a stream. -/
def onStream (sent : List (SendvSpa × Bytes)) (sid : Nat) : List InboundMessage :=
  (sent.filter (·.1.sendvSndinfo.sndSid = sid)).map fun r =>
    (⟨r.1.sendvSndinfo.sndSid, r.1.sendvSndinfo.sndPpid⟩, r.2)

theorem SendsOnly.records {s s' : Transport} (h : SendsOnly s s') :
    ∃ es, s'.history = s.history ++ es ∧ records es = [] := by
  obtain ⟨low, queue, es, rfl, hes, -⟩ := h
  refine ⟨es, rfl, ?_⟩
  unfold RawrtcDataChannel.records
  rw [List.filterMap_eq_nil_iff]
  intro e he
  have hsending := hes e he
  cases e <;> first | rfl | cases hsending

section Sender

/-- There is memory, and what is sent is accepted or deferred. -/
def cooperative : (o : Op) → Transport → o.Reply → Prop
  | .alloc, _, ok => (ok : Bool) = true
  | .allocSendContext, _, ok => (ok : Bool) = true
  | .sendv buffer _ _, _, written => Accepts buffer written
  | _, _, _ => True

theorem ampleMemory_cooperative : AmpleMemory cooperative :=
  fun _ _ h => h

theorem ampleContexts_cooperative : AmpleContexts cooperative :=
  fun _ _ h => h

theorem acceptsAll_cooperative : AcceptsAll cooperative :=
  fun _ _ _ _ _ h => h

variable [MessageBuffer]

/-- The endpoint that sends. -/
def senderHost : Host SendRequest Op Op.Reply Transport Result where
  code x := Call.run (.send x.channel x.buffer x.isBinary)
  permits _ _ _ := True
  answers := cooperative

/-- What has been passed to SCTP in a run: one message for each that was accepted. The channels
    stay as they are. -/
theorem sender_records {s₀ s : Transport} {done : List (SendRequest × Result)}
    (h : Turns senderHost s₀ done s) : s.dataChannels = s₀.dataChannels ∧
      ∃ es, s.history = s₀.history ++ es ∧ records es = (sentMessages done).map fun x =>
        (userSendInfo (s₀.dataChannels x.1) (s₀.context x.1) x.2.ppid, x.2.payload) := by
  induction h with
  | nil => exact ⟨rfl, [], by simp, rfl⟩
  | @snoc s s' done x r _ hturn ih =>
    obtain ⟨hsame, es, hes, hrecords⟩ := ih
    obtain ⟨-, hout⟩ := hturn
    obtain ⟨code, s₁, hsend, hrest⟩ := Prog.outcome_bind_iff.mp hout
    obtain ⟨rfl, rfl⟩ := Prog.outcome_ret_iff.mp hrest
    have hcontext : s.context x.channel = s₀.context x.channel := by
      simp only [Transport.context, hsame]
    rcases Prog.always_iff.mp (dataChannelSend_always ampleMemory_cooperative
      ampleContexts_cooperative acceptsAll_cooperative x.channel x.buffer x.isBinary s) _ _ hsend
      with ⟨hrefused, rfl, -⟩ | ⟨rfl, -, s₂, ⟨hsends, -⟩, rfl⟩
    · -- the message is refused, and nothing is sent
      have hnone : SendRequest.accepted? (x, .code code) = none := by
        cases code <;> first | rfl | exact absurd rfl hrefused
      refine ⟨hsame, es, hes, ?_⟩
      rw [hrecords, sentMessages, sentMessages, List.filterMap_append,
        List.filterMap_cons_none hnone, List.filterMap_nil, List.append_nil]
    · -- what has been told between the two events are calls of usrsctp
      obtain ⟨es', hes', hnone⟩ := hsends.records
      have hsame' : s₂.dataChannels = s.dataChannels := by
        obtain ⟨_, _, _, rfl, -⟩ := hsends
        rfl
      refine ⟨hsame'.trans hsame, es ++ (.sendMessage (userSendInfo (s.dataChannels x.channel)
        (s.context x.channel) x.message.ppid) x.message.payload :: es' ++
        [.messageAccepted x.channel]), ?_, ?_⟩
      · simp [Transport.log, hes', hes, SendRequest.message]
      · have hsplit : records (.sendMessage (userSendInfo (s.dataChannels x.channel)
            (s.context x.channel) x.message.ppid) x.message.payload :: es' ++
            [.messageAccepted x.channel]) = [(userSendInfo (s.dataChannels x.channel)
            (s.context x.channel) x.message.ppid, x.message.payload)] := by
          rw [List.cons_append, ← List.singleton_append, records_append, records_append, hnone]
          rfl
        rw [records_append, hrecords, hsplit, hsame, hcontext]
        simp [sentMessages, SendRequest.accepted?]

end Sender

/-! ## Section 2: What is received -/

/-- The calls of message handlers. -/
def handledMessages (history : List Event) : List (ChannelId × Option Bytes × MessageFlags) :=
  history.filterMap fun
    | .handler (.messageHandler c buffer messageFlags) => some (c, buffer, messageFlags)
    | _ => none

@[simp] theorem handledMessages_append (history history' : List Event) :
    handledMessages (history ++ history') = handledMessages history ++ handledMessages history' := by
  simp [handledMessages]

/-- The calls of one channel's message handler. -/
def handledOn (c : ChannelId) (history : List Event) : List (Option Bytes × MessageFlags) :=
  ((handledMessages history).filter (·.1 = c)).map Prod.snd

/-- What the message handler is called with for a message. -/
def UserMessage.handled (m : UserMessage) : Option Bytes × MessageFlags :=
  (some m.bytes, m.messageFlags)

/-- The endpoint has its channels registered for some streams, each for one of them only, and none
    of them is in streaming mode or in the middle of a message. -/
structure ReadyToReceive (streams : Nat → Option ChannelId) (r : Transport) : Prop where
  connected : r.state = .connected
  attached : r.flags.detached = false
  channels : ∀ sid c, streams sid = some c → r.channels sid = some c
  distinct : ∀ sid sid' c, streams sid = some c → streams sid' = some c → sid = sid'
  whole : ∀ sid c, streams sid = some c → (r.dataChannels c).flags.streamed = false
  messageHandler : ∀ sid c, streams sid = some c →
    (r.dataChannels c).handlers.messageHandler = true

namespace ReadyToReceive

variable {streams : Nat → Option ChannelId} {r : Transport}

theorem log (h : ReadyToReceive streams r) (e : Event) : ReadyToReceive streams (r.log e) :=
  ⟨h.connected, h.attached, h.channels, h.distinct, h.whole, h.messageHandler⟩

theorem modifyContext (h : ReadyToReceive streams r) (c : ChannelId) (f : Context → Context) :
    ReadyToReceive streams (r.modifyContext c f) := by
  refine ⟨h.connected, h.attached, h.channels, h.distinct, ?_, ?_⟩
  · intro sid c' hc'
    by_cases heq : c' = c
    · subst heq
      rw [r.dataChannels_modifyContext]
      exact h.whole sid c' hc'
    · rw [r.dataChannels_modifyContext_of_ne heq]
      exact h.whole sid c' hc'
  · intro sid c' hc'
    by_cases heq : c' = c
    · subst heq
      rw [r.dataChannels_modifyContext]
      exact h.messageHandler sid c' hc'
    · rw [r.dataChannels_modifyContext_of_ne heq]
      exact h.messageHandler sid c' hc'

end ReadyToReceive

/-- The channel's buffer holds an unfinished message. -/
def Transport.Holds (r : Transport) (c : ChannelId) (unfinished : Option InboundMessage) : Prop :=
  ∃ context, (r.dataChannels c).transportArg = some context ∧
    HeldAs context.bufferInbound context.infoInbound unfinished

/-- The endpoint has come as far as the assembly. -/
structure Receiving (streams : Nat → Option ChannelId) (r₀ r : Transport)
    (a : Assembly Nat RcvInfo UInt8) : Prop extends ReadyToReceive streams r where
  held : ∀ sid c, streams sid = some c → r.Holds c (a.unfinished sid)
  handled : ∀ sid c, streams sid = some c → ∃ ms : List UserMessage,
    a.completedOn sid = ms.map (fun m => m.record sid) ∧
      handledOn c r.history = handledOn c r₀.history ++ ms.map UserMessage.handled

section Receiver

variable {streams : Nat → Option ChannelId} {r₀ r : Transport} {a : Assembly Nat RcvInfo UInt8}

theorem handledOn_log (c c' : ChannelId) (r : Transport) (m : UserMessage) :
    handledOn c (r.log (.handler (.messageHandler c' (some m.bytes) m.messageFlags))).history =
      handledOn c r.history ++ if c' = c then [m.handled] else [] := by
  unfold handledOn Transport.log
  rw [handledMessages_append, List.filter_append, List.map_append]
  congr 1
  by_cases heq : c' = c <;> simp [handledMessages, heq, UserMessage.handled]

/-- The context of another channel has been updated. -/
theorem Transport.Holds.of_ne {c c' : ChannelId} {unfinished : Option InboundMessage}
    (h : r.Holds c' unfinished) (hne : c' ≠ c) (f : Context → Context) :
    (r.modifyContext c f).Holds c' unfinished := by
  obtain ⟨context, hcontext, hheld⟩ := h
  refine ⟨context, ?_, hheld⟩
  rw [r.dataChannels_modifyContext_of_ne hne]
  exact hcontext

/-- A piece that does not complete its message. -/
theorem Receiving.more (h : Receiving streams r₀ r a) {p : Piece Nat RcvInfo UInt8}
    (hmore : p.last = false) {c : ChannelId} (hc : streams p.key = some c) {f : Context → Context}
    (hheld : (r.modifyContext c f).Holds c (some (extend (a.unfinished p.key) p.tag p.data))) :
    Receiving streams r₀ (r.modifyContext c f) (a.arrive (.piece p)) where
  toReadyToReceive := h.toReadyToReceive.modifyContext c f
  held sid c' hc' := by
    by_cases hsid : sid = p.key
    · subst hsid
      obtain rfl : c = c' := Option.some.inj (hc.symm.trans hc')
      rw [a.arrive_more hmore]
      dsimp only
      rw [Function.update_self]
      exact hheld
    · have hne : c' ≠ c := by
        intro heq
        exact hsid (h.distinct sid p.key c' hc' (heq ▸ hc))
      rw [a.unfinished_arrive_of_ne hsid]
      exact (h.held sid c' hc').of_ne hne f
  handled sid c' hc' := by
    rw [a.arrive_more hmore]
    exact h.handled sid c' hc'

/-- A piece that completes its message. -/
theorem Receiving.last (h : Receiving streams r₀ r a) {p : Piece Nat RcvInfo UInt8}
    (hlast : p.last = true) {c : ChannelId} (hc : streams p.key = some c) {f : Context → Context}
    (hheld : (r.modifyContext c f).Holds c none) {m : UserMessage}
    (hm : extend (a.unfinished p.key) p.tag p.data = m.record p.key) :
    Receiving streams r₀ ((r.modifyContext c f).log
      (.handler (.messageHandler c (some m.bytes) m.messageFlags))) (a.arrive (.piece p)) where
  toReadyToReceive := (h.toReadyToReceive.modifyContext c f).log _
  held sid c' hc' := by
    -- on this stream nothing is left unfinished, and on the others nothing happens
    by_cases hsid : sid = p.key
    · subst hsid
      obtain rfl : c = c' := Option.some.inj (hc.symm.trans hc')
      rw [a.arrive_last hlast]
      dsimp only
      rw [Function.update_self]
      exact hheld
    · have hne : c' ≠ c := by
        intro heq
        exact hsid (h.distinct sid p.key c' hc' (heq ▸ hc))
      rw [a.unfinished_arrive_of_ne hsid]
      exact (h.held sid c' hc').of_ne hne f
  handled sid c' hc' := by
    obtain ⟨ms, hcompleted, hhandled⟩ := h.handled sid c' hc'
    rw [handledOn_log]
    -- the message that is completed is the one that is handled
    by_cases hsid : sid = p.key
    · subst hsid
      obtain rfl : c = c' := Option.some.inj (hc.symm.trans hc')
      refine ⟨ms ++ [m], ?_, ?_⟩
      · rw [a.arrive_last hlast, hm, List.map_append, ← hcompleted]
        simp [Assembly.completedOn]
      · rw [if_pos rfl, List.map_append, ← List.append_assoc, ← hhandled]
        rfl
    · have hne : c ≠ c' := by
        intro heq
        exact hsid (h.distinct sid p.key c' hc' (heq ▸ hc))
      refine ⟨ms, ?_, ?_⟩
      · rw [a.completedOn_arrive_of_ne hsid]
        exact hcompleted
      · rw [if_neg hne, List.append_nil]
        exact hhandled

/-- The event loop reads a piece. -/
def readPiece (p : Piece Nat RcvInfo UInt8) : Call :=
  .readEvent (.data p.data (some p.tag) p.last)

/-- One piece of a message is received as the abstract reassembly does it. -/
theorem readPiece_always [MessageBuffer] (h : Receiving streams r₀ r a)
    {p : Piece Nat RcvInfo UInt8} {c : ChannelId} (hc : streams p.key = some c) {m : UserMessage}
    (htag : p.tag = ⟨p.key, m.ppid⟩) {before rest : Bytes}
    (hextend : extend (a.unfinished p.key) p.tag p.data = (p.tag, before ++ p.data))
    (hdata : p.data ≠ []) (hlast : p.last = true → rest = []) (hmore : p.last = false → rest ≠ [])
    (hpayload : before ++ (p.data ++ rest) = m.payload) :
    ((Call.run (readPiece p)).run r).Always cooperative fun _ r' =>
      Receiving streams r₀ r' (a.arrive (.piece p)) := by
  have hattached : ¬ r.flags.detached = true := by simp [h.attached]
  have hconnected : ¬ r.state ≠ .connected := not_not.mpr h.connected
  obtain ⟨context, hcontext, hheld⟩ := h.held p.key c hc
  simp only [readPiece, Call.run, readEventHandler, Routine.run_map, Routine.run_bind,
    Routine.run_get, Prog.bind, Routine.run_ite, if_neg hattached, run_alloc]
  intro ok hok
  obtain rfl : ok = true := hok
  simp only [if_true, if_neg hconnected, dataReceiveHandler, htag, if_neg m.ppid_ne_dcep,
    Prog.always_bind]
  rw [htag] at hextend
  apply Prog.Always.mono (handleApplicationMessage_always ampleMemory_cooperative
    (h.channels p.key c hc) hcontext (h.whole p.key c hc) (h.messageHandler p.key c hc) hheld m
    hextend hdata hlast hmore hpayload)
  intro _ r' h'
  -- the channel code agrees with the abstract reassembly about the end of a message
  obtain ⟨f, hf⟩ := h'
  have hnow : ((r.modifyContext c f).dataChannels c).transportArg = some (f context) := by
    rw [r.dataChannels_modifyContext, hcontext]
    rfl
  rw [← htag] at hextend
  cases hp : p.last with
  -- the piece is added to what is unfinished
  | false =>
    rw [hp] at hf
    obtain ⟨rfl, hheld'⟩ := hf
    apply h.more hp hc
    refine ⟨f context, hnow, ?_⟩
    rw [hextend, htag]
    exact hheld'
  -- the message is complete, and it is the one that was sent
  | true =>
    rw [hp] at hf
    obtain ⟨rfl, hreleased⟩ := hf
    apply h.last hp hc ⟨f context, hnow, hreleased⟩
    obtain rfl := hlast hp
    rw [List.append_nil] at hpayload
    rw [hextend, hpayload, htag]
    rfl

variable [MessageBuffer]

/-- The endpoint that receives. -/
def receiverHost : Host (Piece Nat RcvInfo UInt8) Op Op.Reply Transport Result where
  code p := Call.run (readPiece p)
  permits _ _ _ := True
  answers := cooperative

/-- Receiving the pieces that SCTP carries refines the abstract reassembly. -/
theorem receiver_receives {total w : Nat → List InboundMessage}
    (htotal : ∀ sid, ∀ x ∈ total sid, streams sid ≠ none ∧ ∃ m : UserMessage, x = m.record sid)
    (hready : ReadyToReceive streams r₀) (hidle : ∀ sid c, streams sid = some c → r₀.Holds c none)
    {received : List (Piece Nat RcvInfo UInt8 × Result)} (h : Turns receiverHost r₀ received r)
    (hcarried : Carries total (received.map Prod.fst) w) :
    ∃ a, Receiving streams r₀ r a ∧ Tracks total a w := by
  induction h generalizing w with
  | nil =>
    rw [hcarried.eq_of_nil]
    refine ⟨.empty, ⟨hready, hidle, ?_⟩, tracks_empty total⟩
    intro sid c hc
    exact ⟨[], rfl, by simp⟩
  | @snoc r r' received p result _ hturn ih =>
    rw [List.map_append] at hcarried
    obtain ⟨w', hcarried', hp⟩ := hcarried.concat
    obtain ⟨a, hreceiving, htracks⟩ := ih hcarried'
    obtain ⟨before, rest, hextend, hdata, hlast, hmore, hmem⟩ := htracks.next hp
    obtain ⟨hstream, m, hm⟩ := htotal p.key _ hmem
    obtain ⟨c, hc⟩ := Option.ne_none_iff_exists'.mp hstream
    obtain ⟨htag, hpayload⟩ := Prod.mk.inj hm
    have hnext := Prog.always_iff.mp (readPiece_always hreceiving hc htag hextend hdata hlast hmore
      hpayload) result r' hturn.2
    exact ⟨a.arrive (.piece p), hnext, htracks.carry hp⟩

end Receiver

/-! ## Section 3: The round trip -/

/-- The messages that have been sent on a stream, in order. -/
def sentOn (s : Transport) (done : List (SendRequest × Result)) (sid : Nat) : List UserMessage :=
  ((sentMessages done).filter fun x => (s.context x.1).sid = sid).map Prod.snd

/-- On the wire, a stream has the messages that were sent on its channels. -/
theorem onStream_records {s : Transport} {done : List (SendRequest × Result)} (sid : Nat) :
    onStream ((sentMessages done).map fun x =>
      (userSendInfo (s.dataChannels x.1) (s.context x.1) x.2.ppid, x.2.payload)) sid =
      (sentOn s done sid).map fun m => m.record sid := by
  unfold onStream sentOn
  induction sentMessages done with
  | nil => rfl
  | cons x xs ih =>
    rw [List.map_cons, List.filter_cons, List.filter_cons]
    by_cases hsid : (s.context x.1).sid = sid
    · rw [if_pos (by simp [userSendInfo, hsid]), if_pos (by simp [hsid]), List.map_cons,
        List.map_cons, List.map_cons, ih]
      simp [UserMessage.record, userSendInfo, hsid]
    · rw [if_neg (by simp [userSendInfo, hsid]), if_neg (by simp [hsid]), ih]

/-- What an endpoint has passed to SCTP since it was in the state `s₀`. -/
def recordsSince (s₀ s : Transport) : List (SendvSpa × Bytes) :=
  records (s.history.drop s₀.history.length)

/-- **Sending and receiving are inverse.** Messages that are sent on ordered reliable channels are
    ordered and reliable for SCTP. However it splits them and interleaves the streams, the other
    endpoint's message handlers are called with the messages that were sent on their streams. -/
theorem messages_round_trip [MessageBuffer] {s₀ s : Transport}
    {done : List (SendRequest × Result)} (hsent : Turns senderHost s₀ done s)
    (hreliable : ∀ x ∈ done,
      (s₀.dataChannels x.1.channel).parameters.channelType = .reliableOrdered)
    {received : List (Piece Nat RcvInfo UInt8 × Result)}
    (hcarried : Carries (onStream (recordsSince s₀ s)) (received.map Prod.fst) fun _ => [])
    {r₀ r : Transport} {streams : Nat → Option ChannelId} (hready : ReadyToReceive streams r₀)
    (hidle : ∀ sid c, streams sid = some c → r₀.Holds c none)
    (hregistered : ∀ x ∈ done, streams (s₀.context x.1.channel).sid ≠ none)
    (hreceived : Turns receiverHost r₀ received r) :
    (∀ x ∈ recordsSince s₀ s, x.1.sendvSndinfo.unordered = false ∧ x.1.prinfoValid = false) ∧
      ∀ sid c, streams sid = some c → handledOn c r.history =
        handledOn c r₀.history ++ (sentOn s₀ done sid).map UserMessage.handled := by
  obtain ⟨-, es, hes, hrecords⟩ := sender_records hsent
  -- what has been sent are the records of the messages that were accepted
  have hsince : recordsSince s₀ s = (sentMessages done).map fun x =>
      (userSendInfo (s₀.dataChannels x.1) (s₀.context x.1) x.2.ppid, x.2.payload) := by
    rw [recordsSince, hes, List.drop_left, hrecords]
  have hfrom : ∀ x ∈ sentMessages done, ∃ y ∈ done, y.1.channel = x.1 := by
    intro x hx
    obtain ⟨y, hy, hsome⟩ := List.mem_filterMap.mp hx
    refine ⟨y, hy, ?_⟩
    unfold SendRequest.accepted? at hsome
    split at hsome
    · rw [← Option.some.inj hsome]
    · cases hsome
  rw [hsince] at hcarried ⊢
  refine ⟨?_, ?_⟩
  · -- the parameters of the channel decide how a message is sent
    intro x hx
    obtain ⟨y, hy, rfl⟩ := List.mem_map.mp hx
    obtain ⟨z, hz, hchannel⟩ := hfrom y hy
    have htype := hreliable z hz
    rw [hchannel] at htype
    simp [userSendInfo, partialReliability, htype, DataChannelType.isUnordered,
      DataChannelType.toByte]
  · -- stream by stream, the records are split into pieces and put together again
    intro sid c hc
    have htotal : ∀ sid, ∀ x ∈ (sentOn s₀ done sid).map (fun m => m.record sid),
        streams sid ≠ none ∧ ∃ m : UserMessage, x = m.record sid := by
      intro sid x hx
      obtain ⟨m, hm, rfl⟩ := List.mem_map.mp hx
      refine ⟨?_, m, rfl⟩
      obtain ⟨y, hy, -⟩ := List.mem_map.mp hm
      obtain ⟨hy, hsid⟩ := List.mem_filter.mp hy
      obtain ⟨z, hz, hchannel⟩ := hfrom y hy
      have hz' := hregistered z hz
      rw [hchannel, of_decide_eq_true hsid] at hz'
      exact hz'
    have hwire : onStream ((sentMessages done).map fun x =>
        (userSendInfo (s₀.dataChannels x.1) (s₀.context x.1) x.2.ppid, x.2.payload)) =
        fun sid => (sentOn s₀ done sid).map fun m => m.record sid :=
      funext fun sid => onStream_records sid
    rw [hwire] at hcarried
    obtain ⟨a, hreceiving, htracks⟩ := receiver_receives htotal hready hidle hreceived hcarried
    obtain ⟨ms, hcompleted, hhandled⟩ := hreceiving.handled sid c hc
    -- messages with the same records are the same
    have hall : ms = sentOn s₀ done sid := by
      apply List.map_injective_iff.mpr (UserMessage.record_injective sid)
      rw [← hcompleted, htracks.completedOn_eq rfl]
    rw [hhandled, hall]

/-- An endpoint with one open channel, on stream 0. -/
def Transport.withChannel : Transport :=
  { Transport.create false false false false 1200 with
    state := .connected
    channels := fun i => if i = 0 then some 0 else none
    dataChannels := fun _ => {
      parameters := .ofFields none .reliableOrdered 0 none false 0
      state := .opened
      transportArg := some {}
      handlers := { messageHandler := true } }
    nextChannel := 1 }

/-- Two bytes that arrive one by one, and an empty string. -/
theorem messages_round_trip_two :
    let S := @senderHost listMessageBuffer
    let R := @receiverHost listMessageBuffer
    let s₁ := S.exec obligingOracle .withChannel ⟨0, some { data := [1, 2] }, true⟩
    let s₂ := S.exec obligingOracle s₁.2 ⟨0, none, false⟩
    let r₁ := R.exec obligingOracle .withChannel ⟨0, ⟨0, ppidBinary⟩, [1], false⟩
    let r₂ := R.exec obligingOracle r₁.2 ⟨0, ⟨0, ppidBinary⟩, [2], true⟩
    let r₃ := R.exec obligingOracle r₂.2 ⟨0, ⟨0, ppidUtf16Empty⟩, [0], true⟩
    (∀ x ∈ recordsSince .withChannel s₂.2, x.1.sendvSndinfo.unordered = false ∧
        x.1.prinfoValid = false) ∧
      handledOn 0 r₃.2.history = [(some [1, 2], { isComplete := true, isBinary := true }),
        (some [], { isComplete := true, isString := true })] := by
  intro S R s₁ s₂ r₁ r₂ r₃
  let streams : Nat → Option ChannelId := fun sid => if sid = 0 then some 0 else none
  have hanswers : ∀ o s, cooperative o s (obligingOracle o s) := by
    intro o s
    cases o with
    | alloc | allocSendContext => rfl
    | sendv buffer info flags => exact le_refl _
    | _ => trivial
  -- the sender sends two messages
  have h₁ := (Turns.nil (H := S) Transport.withChannel).exec hanswers
    (a := ⟨0, some { data := [1, 2] }, true⟩) trivial
  have h₂ := h₁.exec hanswers (a := ⟨0, none, false⟩) trivial
  -- the receiver gets the pieces
  have g₁ := (Turns.nil (H := R) Transport.withChannel).exec hanswers
    (a := ⟨0, ⟨0, ppidBinary⟩, [1], false⟩) trivial
  have g₂ := g₁.exec hanswers (a := ⟨0, ⟨0, ppidBinary⟩, [2], true⟩) trivial
  have g₃ := g₂.exec hanswers (a := ⟨0, ⟨0, ppidUtf16Empty⟩, [0], true⟩) trivial
  have hstream : ∀ sid c, streams sid = some c → sid = 0 ∧ c = 0 := by
    intro sid c h
    by_cases hsid : sid = 0 <;> simp_all [streams]
  have hready : ReadyToReceive streams .withChannel := by
    refine ⟨rfl, rfl, fun _ _ h => h, ?_, fun _ _ _ => rfl, fun _ _ _ => rfl⟩
    intro sid sid' c h h'
    rw [(hstream sid c h).1, (hstream sid' c h').1]
  have hrecords : recordsSince .withChannel s₂.2 =
      [({ sendvSndinfo := { sndSid := 0, sndPpid := ppidBinary, eor := true } }, [1, 2]),
        ({ sendvSndinfo := { sndSid := 0, sndPpid := ppidUtf16Empty, eor := true } }, [0])] := by
    decide +kernel
  -- the pieces are those of the records, with none left over
  have hcarried : Carries (onStream (recordsSince .withChannel s₂.2))
      [⟨0, ⟨0, ppidBinary⟩, [1], false⟩, ⟨0, ⟨0, ppidBinary⟩, [2], true⟩,
        ⟨0, ⟨0, ppidUtf16Empty⟩, [0], true⟩] fun _ => [] := by
    rw [hrecords]
    generalize hw : onStream _ = w
    have hzero : w 0 = [(⟨0, ppidBinary⟩, [1] ++ [2]), (⟨0, ppidUtf16Empty⟩, [0])] := by
      rw [← hw]
      rfl
    have hothers : ∀ sid, sid ≠ 0 → w sid = [] := by
      intro sid hsid
      rw [← hw]
      simp [onStream, hsid.symm]
    have hcarry := Carries.snoc (Carries.snoc (Carries.snoc (Carries.nil (w := w))
      (Carry.more 0 _ [1] [2] _ hzero (by simp) (by simp)))
      (Carry.last 0 _ [2] _ (Function.update_self _ _ _) (by simp)))
      (Carry.last 0 _ [0] _ (Function.update_self _ _ _) (by simp))
    suffices hend : Function.update (Function.update (Function.update w 0 _) 0 _) 0 _ =
        fun _ => [] from hend ▸ hcarry
    funext sid
    by_cases hsid : sid = 0
    · rw [hsid, Function.update_self]
    · rw [Function.update_of_ne hsid, Function.update_of_ne hsid, Function.update_of_ne hsid,
        hothers sid hsid]
  have hround := @messages_round_trip listMessageBuffer .withChannel s₂.2 _ h₂ (fun _ _ => rfl) _
    (by exact hcarried) .withChannel r₃.2 streams hready (fun _ _ _ => ⟨{}, rfl, rfl⟩)
    (fun _ _ => Option.some_ne_none 0) g₃
  refine ⟨hround.1, (hround.2 0 0 rfl).trans ?_⟩
  decide +kernel

end RawrtcDataChannel
