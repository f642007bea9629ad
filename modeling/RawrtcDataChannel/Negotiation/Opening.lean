import RawrtcDataChannel.Negotiation.OpenCodec
import RawrtcDataChannel.Transfer.ChannelFrames

/-!
# Opening a channel is all or nothing

A channel is opened by the application, negotiated or in-band, or by an OPEN message of the peer.
Each of these ways can fail at many points. If it does, the slots and the queue of outgoing
messages are as they were, and nobody has been told: the half-built channel goes away without a
handler being called and without its stream being reset. If it does not fail, the channel is in
one slot, and exactly one message about it has been sent or queued. All this is so as long as there
is memory for the context of a message that has to wait.
-/

namespace RawrtcDataChannel

open Reentrant

/-! ## Section 1: What opening may do -/

/-- No handler of the application is called, no stream is reset, and nothing is released through a
    pointer that has not been set, which may be a part of the queue. -/
def Event.isSilent : Event → Bool
  | .handler _ | .resetStreams _ _ _ | .derefUnset => false
  | _ => true

/-- The channels that exist are as they were, and all of them still exist. -/
structure SameChannels (s s' : Transport) : Prop where
  nextChannel : s.nextChannel ≤ s'.nextChannel
  dataChannels : ∀ c, c < s.nextChannel → s'.dataChannels c = s.dataChannels c

/-- Nothing has been opened: the slots, the queue and the channels that exist are the same, and
    nobody has been told. -/
structure Unopened (s s' : Transport) : Prop extends SameChannels s s' where
  channels : s'.channels = s.channels
  queue : s'.bufferedMessagesOutgoing = s.bufferedMessagesOutgoing
  silent : ∃ es, s'.history = s.history ++ es ∧ ∀ e ∈ es, e.isSilent = true

/-- The channel `c`, which did not exist before, is in the slot `sid`, which was free. No other
    slot and no other channel has changed. -/
structure Occupies (s s' : Transport) (c : ChannelId) (sid : Nat) : Prop
    extends SameChannels s s' where
  new : c = s.nextChannel
  free : s.channels sid = none
  channels : s'.channels = Function.update s.channels sid (some c)
  context : ∃ context, (s'.dataChannels c).transportArg = some context ∧ context.sid = sid

/-- A DCEP message on a stream, as it is passed to `sctp_send`. -/
def OutMessage.dcep (sid : Nat) (bytes : Bytes) (h : bytes ≠ []) : OutMessage where
  buffer := { data := bytes }
  info := .spa (dcepSendInfo { sid })
  flags := 0
  nonempty := h
  eor := ⟨_, rfl, rfl⟩

/-- No message has been sent or queued. -/
structure SendsNothing (s s' : Transport) : Prop where
  handedOver : handedOver s'.history = handedOver s.history
  queue : s'.bufferedMessagesOutgoing = s.bufferedMessagesOutgoing

/-- Exactly the message `m` has been sent or queued: some of its bytes have been handed over, and
    the others wait at the end of the queue. -/
def SendsOnce (s s' : Transport) (m : OutMessage) : Prop :=
  ∃ offset, handedOver s'.history = handedOver s.history ++ m.tagged.take offset ∧
    (offset = m.bytes.length ∧ s'.bufferedMessagesOutgoing = s.bufferedMessagesOutgoing ∨
      offset < m.bytes.length ∧ ∃ buffer : Mbuf, buffer.rest = m.bytes.drop offset ∧
        s'.bufferedMessagesOutgoing = s.bufferedMessagesOutgoing ++ [⟨buffer, m.context⟩])

/-- The channels the data channel handler has been called for. -/
def dataChannelHandlerCalls (history : List Event) : List ChannelId :=
  history.filterMap fun
    | .handler (.dataChannelHandler c) => some c
    | _ => none

@[simp] theorem dataChannelHandlerCalls_append (history history' : List Event) :
    dataChannelHandlerCalls (history ++ history') =
      dataChannelHandlerCalls history ++ dataChannelHandlerCalls history' := by
  simp [dataChannelHandlerCalls]

theorem openMessageBytes_ne_nil (parameters : DataChannelParameters) :
    openMessageBytes parameters ≠ [] := by
  simp [openMessageBytes]

/-- Creating a channel may get as far as to send an OPEN message for it, where the DTLS transport
    is in this state and has this role. -/
structure Transport.MayPropose (s : Transport) (dtlsState : Except Failure DtlsTransportState)
    (role : Except Failure DtlsRole) (parameters : DataChannelParameters) : Prop where
  inband : parameters.negotiated = false
  connected : dtlsState = .ok .connected
  free : ∃ dtlsRole i sid, role = .ok dtlsRole ∧ firstSid dtlsRole = some i ∧
    findFreeSid s s.nChannels i = some sid
  label : (stringBytes parameters.label).length < 2 ^ 16
  protocol : (stringBytes parameters.protocol).length < 2 ^ 16

/-- An OPEN message may be answered with an ACK message, where the DTLS transport has this role. -/
structure Transport.MayAnswer (s : Transport) (role : Except Failure DtlsRole) (bufferIn : Mbuf)
    (sid : Nat) : Prop where
  parity : ∃ dtlsRole, role = .ok dtlsRole ∧ peerParity dtlsRole sid = true
  state : s.state ≠ .closed
  free : s.channels sid = none
  parses : (decodeOpen bufferIn.rest).isSome = true

/-- What `rawrtc_data_channel_create` may leave behind. -/
def OpensLocally (parameters : DataChannelParameters) (s : Transport) :
    Except Code ChannelId → Transport → Prop
  | .error _, s' => Unopened s s'
  | .ok c, s' => ∃ sid, sid < s.nChannels ∧ Occupies s s' c sid ∧
      if parameters.negotiated then sid = parameters.id ∧ SendsNothing s s'
      else SendsOnce s s' (.dcep sid (openMessageBytes parameters)
        (openMessageBytes_ne_nil parameters))

/-- What `handle_data_channel_open_message` may leave behind. -/
def OpensRemotely (sid : Nat) (s s' : Transport) : Prop :=
  Unopened s s' ∨ ∃ c, Occupies s s' c sid ∧
    SendsOnce s s' (.dcep sid [dcepMessageTypeAck] (List.cons_ne_nil _ _)) ∧
    dataChannelHandlerCalls s'.history =
      dataChannelHandlerCalls s.history ++ if s.dataChannelHandler then [c] else []

/-! ## Section 2: A message and a channel object -/

/-- Between the beginning and the registration, only a message may be sent. If this fails, the
    queue is as it was. -/
def Sends (s : Transport) (m : OutMessage) (sent : Prop) (s' : Transport) : Prop :=
  ∃ low queue es, s' = s.afterSends low queue es ∧ (∀ e ∈ es, e.isSilent = true) ∧
    (sent → SendsOnce s s' m) ∧ (¬ sent → queue = s.bufferedMessagesOutgoing)

/-- The calls that hand over a message are silent. -/
theorem Chunks.silent {chunkSize offset offset' : Nat} {m : OutMessage} {es : List Event}
    (h : Chunks chunkSize m offset es offset') : ∀ e ∈ es, e.isSilent = true := by
  induction h with
  | nil => simp
  | cons written _ _ _ ih =>
    intro e he
    rcases List.mem_cons.mp he with rfl | he
    · rfl
    · exact ih e he

/-- What `sctp_send` does with a message that has been logged. -/
theorem HandsOver.sends {m : OutMessage} {s s' : Transport} {e : Event} {r : Code}
    (he : e.isSilent = true) (hnone : e.handedOver = []) (h : HandsOver m (s.log e) r s') :
    Sends s m (r = .success) s' := by
  obtain ⟨queue, es, offset, rfl, hchunks, -, hcode⟩ := h
  have hhanded : handedOver ((s.log e).afterSends false queue es).history =
      handedOver s.history ++ m.tagged.take offset := by
    simp [Transport.afterSends, Transport.log, hnone, hchunks.handedOver]
  refine ⟨false, queue, e :: es, by simp [Transport.afterSends, Transport.log], ?_, ?_, ?_⟩
  · intro e' he'
    rcases List.mem_cons.mp he' with rfl | he'
    · exact he
    · exact hchunks.silent e' he'
  · intro hr
    refine ⟨offset, hhanded, ?_⟩
    rcases hcode with ⟨-, hend, hqueue⟩ | ⟨hmore, ⟨-, hqueue⟩ | ⟨hfailed, -⟩⟩
    · exact .inl ⟨hend, hqueue⟩
    · exact .inr ⟨hmore, hqueue⟩
    · exact absurd hr hfailed
  · intro hr
    rcases hcode with ⟨hsuccess, -⟩ | ⟨-, ⟨hsuccess, -⟩ | ⟨-, hqueue⟩⟩
    · exact absurd hsuccess hr
    · exact absurd hsuccess hr
    · exact hqueue

/-- Nothing has been sent. -/
theorem Sends.refl (s : Transport) (m : OutMessage) {sent : Prop} (hsent : ¬ sent) :
    Sends s m sent s :=
  ⟨s.flags.bufferedAmountLow, s.bufferedMessagesOutgoing, [], by simp [Transport.afterSends],
    by simp, fun h => absurd h hsent, fun _ => rfl⟩

/-- A new data channel object. -/
def Transport.addChannel (s : Transport) (channel : DataChannel) : Transport :=
  { s with nextChannel := s.nextChannel + 1 }.modifyChannel s.nextChannel fun _ => channel

theorem findFreeSid_addChannel (s : Transport) (channel : DataChannel) :
    findFreeSid (s.addChannel channel) = findFreeSid s := by
  funext fuel i
  induction fuel generalizing i with
  | zero => rfl
  | succ fuel ih =>
    rw [findFreeSid, findFreeSid, ih]
    rfl

/-- A channel object that is in no slot does not matter to the search for a free one. -/
theorem mayPropose_addChannel {s : Transport} {channel : DataChannel}
    {dtlsState : Except Failure DtlsTransportState} {role : Except Failure DtlsRole}
    {parameters : DataChannelParameters} :
    (s.addChannel channel).MayPropose dtlsState role parameters ↔
      s.MayPropose dtlsState role parameters := by
  have hn : (s.addChannel channel).nChannels = s.nChannels := rfl
  constructor
  · intro h
    have hfree := h.free
    rw [findFreeSid_addChannel, hn] at hfree
    exact ⟨h.inband, h.connected, hfree, h.label, h.protocol⟩
  · intro h
    have hfree := h.free
    rw [← findFreeSid_addChannel s channel, ← hn] at hfree
    exact ⟨h.inband, h.connected, hfree, h.label, h.protocol⟩

/-- A new object is no other object. -/
theorem SameChannels.addChannel (s : Transport) (channel : DataChannel) :
    SameChannels s (s.addChannel channel) := by
  refine ⟨Nat.le_succ _, ?_⟩
  intro c hc
  simp [Transport.addChannel, Transport.modifyChannel, hc.ne]

theorem SameChannels.trans {s s' s'' : Transport} (h : SameChannels s s')
    (hnext : s'.nextChannel ≤ s''.nextChannel)
    (hothers : ∀ c, c ≠ s.nextChannel → s''.dataChannels c = s'.dataChannels c) :
    SameChannels s s'' :=
  ⟨h.nextChannel.trans hnext, fun c hc => (hothers c hc.ne).trans (h.dataChannels c hc)⟩

/-- A channel that was given up after at most a part of a message has been sent in vain. -/
theorem Sends.unopened {s s' : Transport} {channel : DataChannel} {m : OutMessage}
    (h : Sends (s.addChannel channel) m False s') : Unopened s s' := by
  obtain ⟨low, queue, es, rfl, hsilent, -, hqueue⟩ := h
  exact ⟨(SameChannels.addChannel s channel).trans le_rfl fun _ _ => rfl, rfl, hqueue id, es, rfl,
    hsilent⟩

/-- It has no context. -/
theorem Sends.transportArg {s s' : Transport} {channel : DataChannel} {m : OutMessage}
    {sent : Prop} (h : Sends (s.addChannel channel) m sent s') :
    (s'.dataChannels s.nextChannel).transportArg = channel.transportArg := by
  obtain ⟨low, queue, es, rfl, -⟩ := h
  simp [Transport.afterSends, Transport.addChannel, Transport.modifyChannel]

/-- Nothing is opened where nothing is changed but a new channel object. -/
theorem Unopened.modifyChannel {s s' : Transport} (h : Unopened s s')
    (f : DataChannel → DataChannel) : Unopened s (s'.modifyChannel s.nextChannel f) := by
  refine ⟨h.toSameChannels.trans le_rfl ?_, h.channels, h.queue, h.silent⟩
  intro c hc
  simp [Transport.modifyChannel, hc]

theorem Unopened.refl (s : Transport) : Unopened s s :=
  ⟨⟨le_rfl, fun _ _ => rfl⟩, rfl, rfl, [], by simp, by simp⟩

theorem Sends.channels {s s' : Transport} {m : OutMessage} {sent : Prop}
    (h : Sends s m sent s') : s'.channels = s.channels := by
  obtain ⟨low, queue, es, rfl, -⟩ := h
  rfl

theorem Sends.nextChannel {s s' : Transport} {m : OutMessage} {sent : Prop}
    (h : Sends s m sent s') : s'.nextChannel = s.nextChannel := by
  obtain ⟨low, queue, es, rfl, -⟩ := h
  rfl

theorem Sends.dataChannels {s s' : Transport} {m : OutMessage} {sent : Prop}
    (h : Sends s m sent s') : s'.dataChannels = s.dataChannels := by
  obtain ⟨low, queue, es, rfl, -⟩ := h
  rfl

theorem Sends.sendsOnce {s s' : Transport} {m : OutMessage} (h : Sends s m True s') :
    SendsOnce s s' m := by
  obtain ⟨low, queue, es, -, -, hsent, -⟩ := h
  exact hsent trivial

/-- Only the message is new in the calls of the data channel handler. -/
theorem Sends.calls {s s' : Transport} {m : OutMessage} {sent : Prop} (h : Sends s m sent s') :
    dataChannelHandlerCalls s'.history = dataChannelHandlerCalls s.history ∧
      s'.dataChannelHandler = s.dataChannelHandler := by
  obtain ⟨low, queue, es, rfl, hsilent, -⟩ := h
  refine ⟨?_, rfl⟩
  have hnone : dataChannelHandlerCalls es = [] := by
    unfold dataChannelHandlerCalls
    rw [List.filterMap_eq_nil_iff]
    intro e he
    have hsilent' := hsilent e he
    cases e <;> first | rfl | cases hsilent'
  simp [Transport.afterSends, hnone]

/-! ## Section 3: Before the channel is registered -/

section Steps

variable {answers : (o : Op) → Transport → o.Reply → Prop} {refusal : Code → Prop}

/-- Creating a context changes nothing. -/
theorem channelContextCreate_always (sid : Nat) (canSendUnordered : Bool) (s : Transport) :
    ((channelContextCreate sid canSendUnordered).run s).Always answers fun r s' =>
      s' = s ∧ match r with
        | .error error => error ≠ .success
        | .ok context => context.sid = sid := by
  simp only [channelContextCreate, Routine.run_bind, run_alloc, Prog.bind]
  intro ok _
  cases ok with
  | false => exact ⟨rfl, Code.noConfusion⟩
  | true => exact ⟨rfl, rfl⟩

/-- `channel_create_negotiated`. -/
theorem channelCreateNegotiated_always (parameters : DataChannelParameters) (s : Transport) :
    ((channelCreateNegotiated parameters).run s).Always answers fun r s' =>
      s' = s ∧ match r with
        | .error error => error ≠ .success
        | .ok context => context.sid = parameters.id ∧ parameters.id < s.nChannels ∧
            s.channels parameters.id = none := by
  simp only [channelCreateNegotiated, Routine.run_bind, Routine.run_get, Prog.bind,
    Routine.run_ite]
  split
  · exact ⟨rfl, Code.noConfusion⟩
  · next hgood =>
    obtain ⟨-, hbelow, hfree⟩ : ¬ sidMax < parameters.id ∧ ¬ s.nChannels ≤ parameters.id ∧
        ¬ s.channels parameters.id ≠ none := by
      simpa only [not_or] using hgood
    apply Prog.Always.mono (channelContextCreate_always _ _ s)
    intro r s' h
    obtain ⟨rfl, hr⟩ := h
    cases r with
    | error error => exact ⟨rfl, hr⟩
    | ok context => exact ⟨rfl, hr, not_le.mp hbelow, not_not.mp hfree⟩

variable [MessageBuffer]

/-- `send_message` for a DCEP message. -/
theorem sendDcepMessage_once (hanswers : RefusesWith refusal answers)
    (hfull : refusal .tryAgainLater) (hcontexts : AmpleContexts answers) (context : Context)
    {bytes : Bytes} (hbytes : bytes ≠ []) (s : Transport) :
    ((sendMessage none context { data := bytes } ppidDcep).run s).Always answers fun r s' =>
      Sends s (.dcep context.sid bytes hbytes) (r = .success) s' := by
  simp only [sendMessage, if_true, Routine.run_bind, Routine.run_get, run_logEvent, Prog.bind]
  apply Prog.Always.mono (sctpSend_hands hanswers hfull hcontexts (.dcep context.sid bytes hbytes) _)
  intro r s' h
  exact h.sends rfl rfl

/-- `channel_create_inband`. -/
theorem channelCreateInband_always (hanswers : RefusesWith refusal answers)
    (hfull : refusal .tryAgainLater) {parameters : DataChannelParameters} {s : Transport}
    (hinband : parameters.negotiated = false)
    (hcontexts : ∀ t dtlsState role, answers .stateGetter t dtlsState →
      answers .roleGetter t role → s.MayPropose dtlsState role parameters →
        AmpleContexts answers) :
    ((channelCreateInband parameters).run s).Always answers fun r s' =>
      match r with
      | .error error => error ≠ .success ∧ ∃ m, Sends s m False s'
      | .ok context => context.sid < s.nChannels ∧ s.channels context.sid = none ∧
          Sends s (.dcep context.sid (openMessageBytes parameters)
            (openMessageBytes_ne_nil parameters)) True s' := by
  -- all exits before the OPEN message is sent are alike: nothing has changed
  have hfailed : ∃ m, Sends s m False s :=
    ⟨.dcep 0 _ (openMessageBytes_ne_nil parameters), .refl _ _ id⟩
  simp only [channelCreateInband, Routine.run_bind, run_stateGetter, Prog.bind]
  intro state hstate
  cases state with
  | error error => exact ⟨Code.noConfusion, hfailed⟩
  | ok state =>
    simp only [Routine.run_ite, Routine.run_bind, run_roleGetter, Prog.bind]
    split
    · exact ⟨Code.noConfusion, hfailed⟩
    · next hconnected =>
      rw [not_not] at hconnected
      subst hconnected
      intro role hrole
      cases role with
      | error error => exact ⟨Code.noConfusion, hfailed⟩
      | ok role =>
        dsimp only
        cases hfirst : firstSid role with
        | none => exact ⟨Code.noConfusion, hfailed⟩
        | some i =>
          simp only [Routine.run_bind, Routine.run_get, Prog.bind]
          cases hfind : findFreeSid s s.nChannels i with
          | none => exact ⟨Code.noConfusion, hfailed⟩
          | some sid =>
            obtain ⟨hbelow, hfree⟩ := findFreeSid_eq_some hfind
            -- stream ids fit 16 bits, so the conversion loses nothing
            have hsid : sid % 2 ^ 16 = sid := by
              have := s.nChannels_le
              exact Nat.mod_eq_of_lt (by omega)
            simp only [Routine.run_bind, hsid, Prog.always_bind]
            apply Prog.Always.mono (channelContextCreate_always sid false s)
            intro r s' h
            obtain ⟨rfl, hcontext⟩ := h
            cases r with
            | error error => exact ⟨hcontext, hfailed⟩
            | ok context =>
              obtain rfl := hcontext
              simp only [dataChannelOpenMessageCreate, Routine.run_bind, Routine.run_ite,
                run_alloc]
              split
              · exact ⟨Code.noConfusion, hfailed⟩
              · next hfits =>
                -- every check has been passed, so the OPEN message is going to be sent
                have hpropose : s'.MayPropose (.ok .connected) (.ok role) parameters :=
                  ⟨hinband, rfl, ⟨role, i, _, rfl, hfirst, hfind⟩, by omega, by omega⟩
                simp only [Prog.bind]
                intro ok _
                cases ok with
                | false => exact ⟨Code.noConfusion, hfailed⟩
                | true =>
                  simp only [if_true, Routine.run_pure, Prog.bind, Routine.run_bind,
                    Prog.always_bind]
                  -- the OPEN message is sent exactly once if this succeeds
                  apply Prog.Always.mono (sendDcepMessage_once hanswers hfull
                    (hcontexts _ _ _ hstate hrole hpropose) context
                    (openMessageBytes_ne_nil parameters) s')
                  intro r s'' h
                  rw [Routine.run_ite]
                  split
                  · next hr =>
                    subst hr
                    exact ⟨hbelow, hfree, by simpa only using h⟩
                  · next hr =>
                    simp only [hr] at h
                    exact ⟨hr, _, h⟩

/-! ## Section 4: Registration -/

/-- The channel `c` has changed its state and the application has been told. -/
structure TellsOnly (c : ChannelId) (s s' : Transport) : Prop where
  channels : s'.channels = s.channels
  queue : s'.bufferedMessagesOutgoing = s.bufferedMessagesOutgoing
  handedOver : handedOver s'.history = handedOver s.history
  calls : dataChannelHandlerCalls s'.history = dataChannelHandlerCalls s.history
  transportArg : (s'.dataChannels c).transportArg = (s.dataChannels c).transportArg
  nextChannel : s'.nextChannel = s.nextChannel
  others : ∀ c', c' ≠ c → s'.dataChannels c' = s.dataChannels c'

instance (c : ChannelId) : IsPreorder Transport (TellsOnly c) where
  refl _ := ⟨rfl, rfl, rfl, rfl, rfl, rfl, fun _ _ => rfl⟩
  trans _ _ _ h h' := ⟨h'.channels.trans h.channels, h'.queue.trans h.queue,
    h'.handedOver.trans h.handedOver, h'.calls.trans h.calls,
    h'.transportArg.trans h.transportArg, h'.nextChannel.trans h.nextChannel,
    fun c' hc => (h'.others c' hc).trans (h.others c' hc)⟩

omit [MessageBuffer] in
theorem TellsOnly.log (c : ChannelId) (s : Transport) {e : Event} (hsent : e.handedOver = [])
    (hcall : dataChannelHandlerCalls [e] = []) : TellsOnly c s (s.log e) :=
  ⟨rfl, rfl, by simp [Transport.log, hsent], by simp [Transport.log, hcall], rfl, rfl,
    fun _ _ => rfl⟩

omit [MessageBuffer] in
/-- An update of the channel that keeps its context. -/
theorem TellsOnly.modifyChannel (s : Transport) (c : ChannelId) {f : DataChannel → DataChannel}
    (hf : ∀ ch, (f ch).transportArg = ch.transportArg) : TellsOnly c s (s.modifyChannel c f) := by
  refine ⟨rfl, rfl, rfl, rfl, ?_, rfl, ?_⟩
  · simp [Transport.modifyChannel, hf]
  · intro c' hc
    simp [Transport.modifyChannel, hc]

omit [MessageBuffer] in
theorem openChannel_keeps (c : ChannelId) :
    (dataChannelSetState c .opened).Keeps answers (TellsOnly c) := by
  apply Routine.Keeps.bind
  · exact Routine.keeps_modify fun s => .modifyChannel s c fun _ => rfl
  · intro _
    apply Routine.Keeps.bind
    · exact Routine.keeps_modify fun s => .log c s rfl rfl
    · intro _
      apply Routine.keeps_get.bind
      intro t
      apply Routine.Keeps.ite _ (Routine.keeps_pure _)
      apply Routine.Keeps.bind
      · exact Routine.keeps_modify fun s => .log c s rfl rfl
      · intro _
        exact Routine.keeps_perform _

/-- The channel has been put into its slot, and has been announced if this was asked for. -/
structure Registers (s s' : Transport) (c : ChannelId) (sid : Nat) (announced : Bool) : Prop where
  channels : s'.channels = Function.update s.channels sid (some c)
  queue : s'.bufferedMessagesOutgoing = s.bufferedMessagesOutgoing
  handedOver : handedOver s'.history = handedOver s.history
  calls : dataChannelHandlerCalls s'.history = dataChannelHandlerCalls s.history ++
    if announced then [c] else []
  context : ∃ context, (s'.dataChannels c).transportArg = some context ∧ context.sid = sid
  nextChannel : s'.nextChannel = s.nextChannel
  others : ∀ c', c' ≠ c → s'.dataChannels c' = s.dataChannels c'

omit [MessageBuffer] in
theorem Registers.trans {s s' s'' : Transport} {c : ChannelId} {sid : Nat} {announced : Bool}
    (h : Registers s s' c sid announced) (h' : TellsOnly c s' s'') :
    Registers s s'' c sid announced where
  channels := h'.channels.trans h.channels
  queue := h'.queue.trans h.queue
  handedOver := h'.handedOver.trans h.handedOver
  calls := h'.calls.trans h.calls
  context := by
    rw [h'.transportArg]
    exact h.context
  nextChannel := h'.nextChannel.trans h.nextChannel
  others c' hc := (h'.others c' hc).trans (h.others c' hc)

omit [MessageBuffer] in
/-- `channel_register`. -/
theorem channelRegister_always (c : ChannelId) (context : Context) (raiseEvent : Bool)
    (s : Transport) :
    ((channelRegister c context raiseEvent).run s).Always answers fun _ s' =>
      Registers s s' c context.sid (raiseEvent && s.dataChannelHandler) := by
  -- the end, once the channel has been announced
  have hopen : ∀ t : Transport, Prog.Always answers (fun _ s' => TellsOnly c t s')
      (if t.state = .connected then (dataChannelSetState c .opened).run t
        else (pure () : M Unit).run t) := by
    intro t
    split
    · exact openChannel_keeps c t
    · exact refl_of (TellsOnly c) t
  let t : Transport := ((s.modifyChannel c ({ · with transportArg := some context })).setSlot
    context.sid (some c)).log (.slotRef c (s.channels context.sid))
  have htaken : Registers s t c context.sid false := by
    refine ⟨rfl, rfl, ?_, ?_, ⟨context, ?_, rfl⟩, rfl, ?_⟩
    · simp [t, Transport.log, Transport.setSlot, Transport.modifyChannel, Event.handedOver]
    · simp [t, Transport.log, Transport.setSlot, Transport.modifyChannel, dataChannelHandlerCalls]
    · simp [t, Transport.log, Transport.setSlot, Transport.modifyChannel]
    · intro c' hc
      simp [t, Transport.log, Transport.setSlot, Transport.modifyChannel, hc]
  unfold channelRegister
  simp only [takeSlot, Routine.run_bind, Routine.run_modify, Routine.run_get, run_logEvent,
    Prog.bind, Routine.run_ite]
  by_cases hannounced : raiseEvent = true ∧ s.dataChannelHandler = true
  · have hannounced' : (raiseEvent && s.dataChannelHandler) = true := by simp [hannounced]
    have htold : Registers s (t.log (.handler (.dataChannelHandler c))) c context.sid true := by
      refine ⟨htaken.channels, htaken.queue, ?_, ?_, htaken.context, rfl, htaken.others⟩
      · simp [Transport.log, Event.handedOver, ← htaken.handedOver]
      · have hcalls := htaken.calls
        simp only [Bool.false_eq_true, if_false, List.append_nil] at hcalls
        rw [← hcalls]
        simp [Transport.log, dataChannelHandlerCalls]
    rw [hannounced', if_pos (by exact hannounced)]
    simp only [run_callHandler, Prog.bind]
    intro _ _
    exact Prog.Always.mono (hopen (t.log (.handler (.dataChannelHandler c)))) fun _ _ h =>
      htold.trans h
  · have hannounced' : (raiseEvent && s.dataChannelHandler) = false := by
      simpa using hannounced
    rw [hannounced', if_neg (by exact hannounced)]
    exact Prog.Always.mono (hopen t) fun _ _ h => htaken.trans h

omit [MessageBuffer] in
/-- A channel without a context is destroyed without anybody being told. -/
theorem run_dataChannelDestroy_of_unregistered {s : Transport} {c : ChannelId}
    (h : (s.dataChannels c).transportArg = none) :
    (dataChannelDestroy c).run s = .ret () (s.modifyChannel c ({ · with handlers := {} })) := by
  let t : Transport := s.modifyChannel c ({ · with handlers := {} })
  have hnone : (t.dataChannels c).transportArg = none := by
    simp [t, Transport.modifyChannel, h]
  have hclose : (dataChannelClose c).run t = .ret .success t := by
    simp only [dataChannelClose, channelCloseHandler, Routine.run_bind, Routine.run_get, Prog.bind,
      Routine.run_ite, hnone]
    split
    · rfl
    · split <;> rfl
  simp only [dataChannelDestroy, dataChannelUnsetHandlers, Routine.run_bind, Routine.run_modify,
    Prog.bind, Routine.run_pure]
  rw [hclose]
  rfl

/-! ## Section 5: Local creation -/

/-- What `channel_create_handler` does: the channel is registered, and announced to the peer if it
    is not negotiated, or at most a part of a message has been sent in vain. -/
def Creates (c : ChannelId) (parameters : DataChannelParameters) (s : Transport) (r : Code)
    (s' : Transport) : Prop :=
  if r = .success then
    ∃ sid s₁, sid < s.nChannels ∧ s.channels sid = none ∧ Registers s₁ s' c sid false ∧
      if parameters.negotiated then sid = parameters.id ∧ s₁ = s
      else Sends s (.dcep sid (openMessageBytes parameters) (openMessageBytes_ne_nil parameters))
        True s₁
  else ∃ m, Sends s m False s'

omit [MessageBuffer] in
/-- The end of `channel_create_handler`, when there is a context. -/
theorem registerCreatedChannel_always (c : ChannelId) {parameters : DataChannelParameters}
    {context : Context} {s s₁ : Transport} (hbelow : context.sid < s.nChannels)
    (hfree : s.channels context.sid = none)
    (hsent : if parameters.negotiated then context.sid = parameters.id ∧ s₁ = s
      else Sends s (.dcep context.sid (openMessageBytes parameters)
        (openMessageBytes_ne_nil parameters)) True s₁) :
    ((registerCreatedChannel c (.ok context)).run s₁).Always answers
      (Creates c parameters s) := by
  simp only [registerCreatedChannel, Routine.run_bind, Prog.always_bind, Routine.run_pure,
    Prog.always_ret]
  apply Prog.Always.mono (channelRegister_always c context false s₁)
  intro _ s' h
  unfold Creates
  rw [if_pos rfl]
  exact ⟨context.sid, s₁, hbelow, hfree, h, hsent⟩

/-- `channel_create_handler`. -/
theorem channelCreateHandler_always (hanswers : RefusesWith refusal answers)
    (hfull : refusal .tryAgainLater) (c : ChannelId) {parameters : DataChannelParameters}
    {s : Transport} (hcontexts : ∀ t dtlsState role, answers .stateGetter t dtlsState →
      answers .roleGetter t role → s.MayPropose dtlsState role parameters →
        AmpleContexts answers) :
    ((channelCreateHandler c parameters).run s).Always answers (Creates c parameters s) := by
  cases hkind : parameters.negotiated with
  | true =>
    simp only [channelCreateHandler, hkind, if_true, Routine.run_bind, Prog.always_bind]
    apply Prog.Always.mono (channelCreateNegotiated_always parameters s)
    intro r s₁ h
    obtain ⟨rfl, hr⟩ := h
    cases r with
    | error error =>
      have hfailed : Creates c parameters s₁ error s₁ := by
        unfold Creates
        rw [if_neg hr]
        exact ⟨.dcep 0 _ (openMessageBytes_ne_nil parameters), .refl _ _ id⟩
      exact hfailed
    | ok context =>
      obtain ⟨hsid, hbelow, hfree⟩ := hr
      rw [← hsid] at hbelow hfree
      apply registerCreatedChannel_always c hbelow hfree
      rw [hkind, if_pos rfl]
      exact ⟨hsid, rfl⟩
  | false =>
    simp only [channelCreateHandler, hkind, Bool.false_eq_true, if_false, Routine.run_bind,
      Prog.always_bind]
    apply Prog.Always.mono (channelCreateInband_always hanswers hfull hkind hcontexts)
    intro r s₁ h
    cases r with
    | error error =>
      have hfailed : Creates c parameters s error s₁ := by
        unfold Creates
        rw [if_neg h.1]
        exact h.2
      exact hfailed
    | ok context =>
      obtain ⟨hbelow, hfree, hsent⟩ := h
      apply registerCreatedChannel_always c hbelow hfree
      rw [hkind, if_neg Bool.false_ne_true]
      exact hsent

omit [MessageBuffer] in
/-- A message that was sent or queued before the registration. -/
theorem SendsOnce.registers {s s₁ s' : Transport} {channel : DataChannel} {m : OutMessage}
    {c : ChannelId} {sid : Nat} {announced : Bool} (h : SendsOnce (s.addChannel channel) s₁ m)
    (hregisters : Registers s₁ s' c sid announced) : SendsOnce s s' m := by
  obtain ⟨offset, hhanded, hqueue⟩ := h
  refine ⟨offset, ?_, ?_⟩
  · rw [hregisters.handedOver, hhanded]
    rfl
  · rw [hregisters.queue]
    exact hqueue

/-- `rawrtc_data_channel_create`. -/
theorem dataChannelCreate_always (hanswers : RefusesWith refusal answers)
    (hfull : refusal .tryAgainLater) {parameters : DataChannelParameters}
    (handlers : DataChannelHandlers) {s : Transport}
    (hcontexts : ∀ t dtlsState role, answers .stateGetter t dtlsState →
      answers .roleGetter t role → s.MayPropose dtlsState role parameters →
        AmpleContexts answers) :
    ((dataChannelCreate parameters handlers).run s).Always answers
      (OpensLocally parameters s) := by
  simp only [dataChannelCreate, dataChannelCreateInternal, Routine.run_bind, run_alloc, Prog.bind]
  intro ok _
  cases ok with
  | false => exact Unopened.refl s
  | true =>
    -- the channel object is there, but nobody knows of it yet
    let t : Transport := s.addChannel { parameters, handlers }
    simp only [if_true, Routine.run_bind, Routine.run_get, Routine.run_modify, Prog.bind,
      Prog.always_bind]
    apply Prog.Always.mono (channelCreateHandler_always hanswers hfull s.nextChannel (s := t)
      fun u dtlsState role hstate hrole h => hcontexts u dtlsState role hstate hrole
        (mayPropose_addChannel.mp h))
    intro r s' h
    unfold Creates at h
    rw [Routine.run_ite]
    split at h
    · next hr =>
      obtain ⟨sid, s₁, hbelow, hfree, hregisters, hsent⟩ := h
      rw [if_pos hr]
      -- marking it as initialized tells nobody anything
      have hstays : TellsOnly s.nextChannel s' (s'.modifyChannel s.nextChannel
          fun ch => { ch with flags := { ch.flags with initialized := true } }) :=
        .modifyChannel s' _ fun _ => rfl
      have hdone := hregisters.trans hstays
      -- neither sending nor choosing a stream has touched a channel
      have hsame : s₁.channels = s.channels ∧ s₁.nextChannel = s.nextChannel + 1 ∧
          s₁.dataChannels = t.dataChannels := by
        split at hsent
        · rw [hsent.2]
          exact ⟨rfl, rfl, rfl⟩
        · exact ⟨hsent.channels, hsent.nextChannel, hsent.dataChannels⟩
      refine ⟨sid, hbelow, ⟨?_, rfl, hfree, ?_, hdone.context⟩, ?_⟩
      · apply (SameChannels.addChannel s { parameters, handlers }).trans
        · rw [hdone.nextChannel, hsame.2.1]
          exact le_rfl
        · intro c hc
          rw [hdone.others c hc, hsame.2.2]
      · rw [← hsame.1]
        exact hdone.channels
      · split at hsent
        · next hnegotiated =>
          obtain ⟨hsid, rfl⟩ := hsent
          rw [if_pos hnegotiated]
          exact ⟨hsid, hdone.handedOver, hdone.queue⟩
        · next hinband =>
          rw [if_neg hinband]
          exact hsent.sendsOnce.registers hdone
    · -- the half-built channel is destroyed without anybody hearing of it
      next hr =>
      obtain ⟨m, hsends⟩ := h
      rw [if_neg hr]
      simp only [Routine.run_bind, run_dataChannelDestroy_of_unregistered hsends.transportArg]
      exact hsends.unopened.modifyChannel _

/-! ## Section 6: An OPEN message of the peer -/

/-- What `handle_data_channel_open_message` does behind the creation of the channel. -/
theorem acknowledgeAndRegister_always (hanswers : RefusesWith refusal answers)
    (hfull : refusal .tryAgainLater) (hcontexts : AmpleContexts answers) (c : ChannelId)
    (info : RcvInfo) (s : Transport) :
    ((acknowledgeAndRegister c info).run s).Always answers fun registered s' =>
      if registered then
        ∃ s₁, Sends s (.dcep info.rcvSid [dcepMessageTypeAck] (List.cons_ne_nil _ _)) True s₁ ∧
          Registers s₁ s' c info.rcvSid s.dataChannelHandler
      else ∃ m, Sends s m False s' := by
  have hack : [dcepMessageTypeAck] ≠ [] := List.cons_ne_nil _ _
  have hfailed : ∃ m, Sends s m False s := ⟨.dcep 0 _ hack, .refl _ _ id⟩
  simp only [acknowledgeAndRegister, Routine.run_bind, Prog.always_bind]
  apply Prog.Always.mono (channelContextCreate_always info.rcvSid true s)
  intro r s' h
  obtain ⟨rfl, hr⟩ := h
  cases r with
  | error error => exact hfailed
  | ok context =>
    simp only [dataChannelAckMessageCreate, Routine.run_bind, run_alloc, Prog.bind]
    intro ok _
    cases ok with
    | false => exact hfailed
    | true =>
      simp only [if_true, Routine.run_pure, Prog.always_ret, Routine.run_bind, Prog.always_bind]
      apply Prog.Always.mono (sendDcepMessage_once hanswers hfull hcontexts context hack s')
      intro code s₁ h₁
      rw [hr] at h₁
      rw [Routine.run_ite]
      split
      · next hcode =>
        simp only [hcode] at h₁
        simp only [Routine.run_bind, Prog.always_bind, Routine.run_pure, Prog.always_ret, if_true]
        apply Prog.Always.mono (channelRegister_always c context true s₁)
        intro _ s₂ h₂
        rw [Bool.true_and, h₁.calls.2, hr] at h₂
        exact ⟨s₁, h₁, h₂⟩
      · next hcode =>
        simp only [hcode] at h₁
        exact ⟨_, h₁⟩

/-- `rawrtc_data_channel_create_internal` without the handler of the transport. It only fails for
    lack of memory. -/
theorem dataChannelCreateInternal_always (parameters : DataChannelParameters) (s : Transport) :
    ((dataChannelCreateInternal parameters {} false).run s).Always answers fun r s' =>
      match r with
      | .error _ => s' = s ∧ ¬ AmpleMemory answers
      | .ok c => c = s.nextChannel ∧
          s' = s.addChannel { parameters, flags := { initialized := true }, handlers := {} } := by
  simp only [dataChannelCreateInternal, Routine.run_bind, run_alloc, Prog.bind]
  intro ok hok
  cases ok with
  | false => exact ⟨rfl, not_ampleMemory hok⟩
  | true =>
    refine ⟨rfl, ?_⟩
    simp [Transport.addChannel, Transport.modifyChannel]

omit [MessageBuffer] in
/-- A data transport can only be had while the transport is not closed. -/
theorem sctpTransportGetDataTransport_always (s : Transport) :
    (sctpTransportGetDataTransport.run s).Always answers fun error s' =>
      s' = s ∧ (error = .success → s.state ≠ .closed) := by
  simp only [sctpTransportGetDataTransport, Routine.run_bind, Routine.run_get, Prog.bind,
    Routine.run_ite]
  split
  · exact ⟨rfl, Code.noConfusion⟩
  · next hopen =>
    rw [run_alloc]
    intro ok _
    cases ok with
    | false => exact ⟨rfl, Code.noConfusion⟩
    | true => exact ⟨rfl, fun _ => hopen⟩

/-- `handle_data_channel_open_message`. -/
theorem handleDataChannelOpenMessage_always (hanswers : RefusesWith refusal answers)
    (hfull : refusal .tryAgainLater) {bufferIn : Mbuf} {info : RcvInfo} {s : Transport}
    (hcontexts : ∀ t role, answers .roleGetter t role →
      s.MayAnswer role bufferIn info.rcvSid → AmpleContexts answers) :
    ((handleDataChannelOpenMessage bufferIn info).run s).Always answers fun _ s' =>
      OpensRemotely info.rcvSid s s' := by
  -- as long as no channel has been made, giving up changes nothing
  have hfailed : OpensRemotely info.rcvSid s s := .inl (.refl s)
  simp only [handleDataChannelOpenMessage, Routine.run_bind, run_roleGetter, Prog.bind]
  intro role hrole
  cases role with
  | error error => exact hfailed
  | ok role =>
    simp only [Routine.run_ite, Routine.run_bind, Routine.run_get, Prog.bind]
    split
    · exact hfailed
    · next hparity =>
      split
      · exact hfailed
      · next hslot =>
        have hfree : s.channels info.rcvSid = none := not_not.mp hslot
        simp only [Prog.always_bind]
        apply Prog.Always.mono (dataChannelOpenMessageParse_result s info.rcvSid bufferIn)
        rintro parsed s' ⟨hparsed, rfl⟩
        cases parsed with
        | error error => exact hfailed
        | ok parsed =>
          obtain ⟨parameters, priority⟩ := parsed
          have hparses : (decodeOpen bufferIn.rest).isSome = true := by
            cases hdecode : decodeOpen bufferIn.rest with
            | none =>
              rw [hdecode] at hparsed
              rcases hparsed with hfails | ⟨hfails, -⟩ <;> cases hfails
            | some _ => rfl
          rw [Routine.run_bind, Prog.always_bind]
          apply Prog.Always.mono (sctpTransportGetDataTransport_always s')
          rintro error s ⟨rfl, hopen⟩
          rw [Routine.run_ite]
          split
          · exact hfailed
          · next hsuccess =>
            have hstate := hopen (not_not.mp hsuccess)
            -- all checks have been passed, so an ACK message is going to be sent
            have hcontexts' := hcontexts _ _ hrole
              ⟨⟨role, rfl, by simpa using hparity⟩, hstate, hfree, hparses⟩
            rw [Routine.run_bind, Prog.always_bind]
            apply Prog.Always.mono (dataChannelCreateInternal_always parameters s)
            intro created s₁ h₁
            cases created with
            | error error =>
              obtain rfl : s₁ = s := h₁.1
              exact hfailed
            | ok c =>
              obtain ⟨rfl, rfl⟩ := h₁
              rw [Routine.run_bind, Prog.always_bind]
              apply Prog.Always.mono (acknowledgeAndRegister_always hanswers hfull hcontexts'
                s.nextChannel info _)
              intro registered s₂ h₂
              cases registered with
              -- acknowledged, registered and announced
              | true =>
                obtain ⟨s₃, hsends, hregisters⟩ := h₂
                refine .inr ⟨s.nextChannel, ⟨?_, rfl, hfree, ?_, hregisters.context⟩,
                  hsends.sendsOnce.registers hregisters, ?_⟩
                · apply (SameChannels.addChannel s _).trans
                  · rw [hregisters.nextChannel, hsends.nextChannel]
                  · intro c hc
                    rw [hregisters.others c hc, hsends.dataChannels]
                · rw [hregisters.channels, hsends.channels]
                  rfl
                · rw [hregisters.calls, hsends.calls.1]
                  rfl
              -- the channel is destroyed again, and it was in no slot
              | false =>
                obtain ⟨m, hsends⟩ := h₂
                simp only [if_true, run_dataChannelDestroy_of_unregistered hsends.transportArg]
                exact .inl (hsends.unopened.modifyChannel _)

end Steps

end RawrtcDataChannel
