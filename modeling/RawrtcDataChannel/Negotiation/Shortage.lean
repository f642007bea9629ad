import RawrtcDataChannel.Negotiation.Opening

/-!
# Opening a channel when memory is short

A message that has to wait needs a context. If there is no memory for it, `sctp_send` goes on to
its label `out` and releases a pointer that has never been set. What it holds is not known; it may
be the context of a message in the queue. So opening a channel is all or nothing as long as there
is memory for such contexts, or no message is sent, and not otherwise.
-/

namespace RawrtcDataChannel

open Reentrant

/-! ## Section 1: Surroundings -/

/-- What the DTLS transport answers, and whether memory for the context of a message that has to
    wait may be missing. -/
structure Circumstances where
  dtlsState : Except Failure DtlsTransportState
  role : Except Failure DtlsRole
  short : Bool

namespace Circumstances

variable (x : Circumstances)

/-- Under these circumstances, every other step may fail. -/
def mayFail : (o : Op) → Transport → o.Reply → Prop
  | .allocSendContext, _, ok => (ok : Bool) = false → x.short = true
  | .roleGetter, _, r => r = x.role
  | .stateGetter, _, r => r = x.dtlsState
  | o, s, r => RawrtcDataChannel.mayFail o s r

theorem mayFail_refusesWith : RefusesWith (fun _ => True) x.mayFail :=
  RawrtcDataChannel.mayFail_refusesWith

theorem ampleContexts_mayFail (h : x.short = false) : AmpleContexts x.mayFail := by
  intro s ok hok
  cases ok with
  | false => exact absurd (h.symm.trans (hok rfl)) Bool.false_ne_true
  | true => rfl

/-- usrsctp would block and there is no memory for the context of a message that has to wait, but
    there is other memory. -/
def starving : (o : Op) → Transport → o.Reply → Prop
  | .alloc, _, ok => (ok : Bool) = true
  | .allocSendContext, _, ok => (ok : Bool) = false
  | .sendv _ _ _, _, written => written = .error ⟨.tryAgainLater, by decide⟩
  | .roleGetter, _, r => r = x.role
  | .stateGetter, _, r => r = x.dtlsState
  | _, _, _ => True

theorem ampleMemory_starving : AmpleMemory x.starving :=
  fun _ _ h => h

theorem exists_starving (o : Op) (s : Transport) : ∃ r, x.starving o s r := by
  cases o with
  | alloc => exact ⟨true, rfl⟩
  | allocSendContext => exact ⟨false, rfl⟩
  | sendv buffer info flags => exact ⟨_, rfl⟩
  | roleGetter | stateGetter => exact ⟨_, rfl⟩
  | _ => exact ⟨obligingOracle _ s, trivial⟩

theorem mayFail_of_starving (hshort : x.short = true) (o : Op) (s : Transport) (r : o.Reply)
    (h : x.starving o s r) : x.mayFail o s r := by
  cases o with
  | allocSendContext => exact fun _ => hshort
  | sendv buffer info flags =>
    have hblocks : r = .error ⟨.tryAgainLater, by decide⟩ := h
    rw [hblocks]
    trivial
  | roleGetter | stateGetter => exact h
  | _ => trivial

end Circumstances

/-! ## Section 2: The pointer that has not been set -/

/-- A pointer that has not been set has been released, and nothing else has become of the channels
    and the slots. -/
structure Spoils (s s' : Transport) : Prop where
  channels : s'.channels = s.channels
  dataChannels : s'.dataChannels = s.dataChannels
  released : ∃ es, s'.history = s.history ++ es ∧ .derefUnset ∈ es

/-- Sending before does not make it better. -/
theorem SendsOnly.spoils {s s' : Transport} (h : SendsOnly s s') :
    Spoils s (s'.log .derefUnset) := by
  obtain ⟨low, queue, es, rfl, -⟩ := h
  exact ⟨rfl, rfl, es ++ [.derefUnset], by simp [Transport.log, Transport.afterSends], by simp⟩

theorem Spoils.of_log {s s' : Transport} {e : Event} (h : Spoils (s.log e) s') : Spoils s s' := by
  obtain ⟨es, hes, hmem⟩ := h.released
  refine ⟨h.channels, h.dataChannels, e :: es, ?_, List.mem_cons_of_mem _ hmem⟩
  rw [hes]
  simp [Transport.log]

/-- Nothing could be worse for a channel that is not opened. -/
theorem Spoils.not_unopened {s t s' s'' : Transport} (h : Spoils t s')
    (hbefore : t.history = s.history) (hafter : s''.history = s'.history) : ¬ Unopened s s'' := by
  rintro ⟨-, -, -, es, hes, hsilent⟩
  obtain ⟨es', hes', hmem⟩ := h.released
  rw [hafter, hes', hbefore] at hes
  have hsame := List.append_cancel_left hes
  rw [hsame] at hmem
  exact Bool.false_ne_true (hsilent _ hmem)

section Starving

variable {x : Circumstances}

theorem sctpTransportSend_starving (m : OutMessage) {s : Transport} (h : s.state = .connected) :
    ((sctpTransportSend m.buffer m.info m.flags).run s).Always x.starving fun r _ =>
      r.1 = .tryAgainLater := by
  obtain ⟨i, hi, -⟩ := m.eor
  simp only [sctpTransportSend, sctpTransportSendLoop, Routine.run_bind, Routine.run_get, Prog.bind,
    Routine.run_ite, if_neg (not_not.mpr h), hi, run_usrsctpSendv]
  intro written hwritten
  have hblocks : written = .error ⟨.tryAgainLater, by decide⟩ := hwritten
  subst hblocks
  rfl

variable [MessageBuffer]

theorem bufferMessage_starving (buffer : Mbuf) (info : SendInfo) (flags : Nat) (s : Transport) :
    ((bufferMessage buffer info flags).run s).Always x.starving fun r s' =>
      r = .noMemory ∧ s' = s.log .derefUnset := by
  simp only [bufferMessage, messageSendContextCreate, Routine.run_bind, run_allocSendContext,
    Prog.bind]
  intro ok hok
  have hshort : ok = false := hok
  subst hshort
  exact ⟨rfl, rfl⟩

/-- The message has to wait, whether the association is up or not. -/
theorem sctpSend_starving (m : OutMessage) (s : Transport) :
    ((sctpSend m.buffer m.info m.flags).run s).Always x.starving fun r s' =>
      r = .noMemory ∧ Spoils s s' := by
  let t : Transport := { s with flags := { s.flags with bufferedAmountLow := false } }
  have hcleared : SendsOnly s t := .clearFlag s
  -- every way leads to the queue, where the context is missing
  have hbuffer : ∀ buffer info t, SendsOnly s t →
      ((bufferMessage buffer info m.flags).run t).Always x.starving fun r s' =>
        r = .noMemory ∧ Spoils s s' := by
    intro buffer info t ht
    apply Prog.Always.mono (bufferMessage_starving buffer info m.flags t)
    rintro r s' ⟨hr, rfl⟩
    exact ⟨hr, ht.spoils⟩
  simp only [sctpSend, Routine.run_bind, Routine.run_modify, Routine.run_get, Prog.bind,
    Routine.run_ite]
  split
  · -- usrsctp accepts nothing, so the message has to wait
    next hdirect =>
    rw [Prog.always_bind]
    apply Prog.Always.mono ((sctpTransportSend_starving m (s := t) hdirect.1).and
      (sctpTransportSend_within _ _ _ t).always)
    intro r s' h
    obtain ⟨error, buffer', info'⟩ := r
    obtain ⟨hblocks, hsends⟩ := h
    have hblocks : error = .tryAgainLater := hblocks
    subst hblocks
    exact hbuffer _ _ _ (trans_of SendsOnly hcleared hsends)
  · exact hbuffer _ _ _ hcleared

theorem sendDcepMessage_starving (context : Context) {bytes : Bytes} (hbytes : bytes ≠ [])
    (s : Transport) :
    ((sendMessage none context { data := bytes } ppidDcep).run s).Always x.starving
      fun r s' => r = .noMemory ∧ Spoils s s' := by
  simp only [sendMessage, if_true, Routine.run_bind, Routine.run_get, run_logEvent, Prog.bind]
  exact Prog.Always.mono (sctpSend_starving (.dcep context.sid bytes hbytes) _) fun _ _ h =>
    ⟨h.1, h.2.of_log⟩

end Starving

/-! ## Section 3: Local creation -/

variable [MessageBuffer] {x : Circumstances} {s : Transport} {parameters : DataChannelParameters}

theorem channelCreateInband_starving (h : s.MayPropose x.dtlsState x.role parameters) :
    ((channelCreateInband parameters).run s).Always x.starving fun r s' =>
      r = .error .noMemory ∧ Spoils s s' := by
  obtain ⟨role, i, sid, hrole, hi, hsid⟩ := h.free
  have hlabel := h.label
  have hprotocol := h.protocol
  simp only [channelCreateInband, Routine.run_bind, run_stateGetter, Prog.bind]
  intro state hstate
  obtain rfl : state = .ok .connected := hstate.trans h.connected
  simp only [ne_eq, not_true, if_false, Routine.run_bind, run_roleGetter, Prog.bind]
  intro r hr
  obtain rfl : r = .ok role := hr.trans hrole
  simp only [hi, Routine.run_bind, Routine.run_get, Prog.bind, hsid, channelContextCreate,
    run_alloc]
  intro ok hok
  -- all allocations but the last succeed
  obtain rfl : ok = true := hok
  simp only [if_true, Routine.run_pure, Prog.bind, dataChannelOpenMessageCreate, Routine.run_bind]
  rw [if_neg (by omega)]
  intro ok hok
  obtain rfl : ok = true := hok
  simp only [if_true, Routine.run_pure, Prog.bind, Routine.run_bind, Prog.always_bind]
  apply Prog.Always.mono (sendDcepMessage_starving _ (openMessageBytes_ne_nil parameters) s)
  rintro error s' ⟨rfl, hspoils⟩
  exact ⟨rfl, hspoils⟩

/-- `rawrtc_data_channel_create` goes wrong if it gets as far as to send an OPEN message. -/
theorem dataChannelCreate_starving (h : s.MayPropose x.dtlsState x.role parameters)
    (handlers : DataChannelHandlers) :
    ((dataChannelCreate parameters handlers).run s).Always x.starving fun r s' =>
      r = .error .noMemory ∧ ¬ Unopened s s' := by
  let t : Transport := s.addChannel { parameters, handlers }
  have ht : t.MayPropose x.dtlsState x.role parameters := mayPropose_addChannel.mpr h
  simp only [dataChannelCreate, dataChannelCreateInternal, Routine.run_bind, run_alloc, Prog.bind]
  intro ok hok
  obtain rfl : ok = true := hok
  simp only [if_true, Routine.run_bind, Routine.run_get, Routine.run_modify, Prog.bind,
    channelCreateHandler, h.inband, Bool.false_eq_true, if_false, Prog.always_bind]
  apply Prog.Always.mono (channelCreateInband_starving ht)
  rintro _ s₁ ⟨rfl, hspoils⟩
  have hnone : (s₁.dataChannels s.nextChannel).transportArg = none := by
    rw [hspoils.dataChannels]
    simp [t, Transport.addChannel, Transport.modifyChannel]
  simp only [registerCreatedChannel, Routine.run_pure, Prog.always_ret]
  rw [Routine.run_ite, if_neg Code.noConfusion]
  simp only [Routine.run_bind, run_dataChannelDestroy_of_unregistered hnone, Prog.bind,
    Routine.run_pure, Prog.always_ret]
  exact ⟨trivial, hspoils.not_unopened rfl rfl⟩

/-! ## Section 4: An OPEN message of the peer -/

theorem acknowledgeAndRegister_starving (c : ChannelId) (info : RcvInfo)
    (s : Transport) :
    ((acknowledgeAndRegister c info).run s).Always x.starving fun registered s' =>
      registered = false ∧ Spoils s s' := by
  simp only [acknowledgeAndRegister, channelContextCreate, Routine.run_bind, run_alloc, Prog.bind]
  intro ok hok
  obtain rfl : ok = true := hok
  simp only [if_true, Routine.run_pure, Prog.bind, dataChannelAckMessageCreate, Routine.run_bind,
    run_alloc]
  intro ok hok
  obtain rfl : ok = true := hok
  simp only [if_true, Routine.run_pure, Prog.bind, Routine.run_bind, Prog.always_bind]
  apply Prog.Always.mono (sendDcepMessage_starving _ (List.cons_ne_nil _ _) s)
  rintro error s' ⟨rfl, hspoils⟩
  exact ⟨rfl, hspoils⟩

/-- `handle_data_channel_open_message` goes wrong if it gets as far as to send an ACK message. -/
theorem handleDataChannelOpenMessage_starving {bufferIn : Mbuf} {info : RcvInfo}
    (h : s.MayAnswer x.role bufferIn info.rcvSid) :
    ((handleDataChannelOpenMessage bufferIn info).run s).Always x.starving fun _ s' =>
      ¬ OpensRemotely info.rcvSid s s' := by
  obtain ⟨role, hrole, hparity⟩ := h.parity
  obtain ⟨⟨parameters, priority⟩, hdecode⟩ := Option.isSome_iff_exists.mp h.parses
  have hoccupied : ¬ s.channels info.rcvSid ≠ none := not_not.mpr h.free
  simp only [handleDataChannelOpenMessage, Routine.run_bind, run_roleGetter, Prog.bind]
  -- the getters and the other allocations succeed
  intro r hr
  obtain rfl : r = .ok role := hr.trans hrole
  simp only [hparity, Bool.true_eq_false, if_false, Routine.run_bind, Routine.run_get, Prog.bind,
    Routine.run_ite, if_neg hoccupied, Prog.always_bind]
  apply Prog.Always.mono (dataChannelOpenMessageParse_always x.ampleMemory_starving s
    info.rcvSid bufferIn)
  rintro _ s ⟨rfl, rfl⟩
  simp only [hdecode, Option.elim, sctpTransportGetDataTransport, Routine.run_bind,
    Routine.run_get, Prog.bind, Routine.run_ite, if_neg h.state, run_alloc]
  intro ok hok
  obtain rfl : ok = true := hok
  simp only [if_true, Routine.run_pure, Prog.bind, ne_eq, not_true, if_false, Prog.always_bind]
  apply Prog.Always.mono (dataChannelCreateInternal_always parameters s)
  intro created s₁ h₁
  cases created with
  | error error => exact absurd x.ampleMemory_starving h₁.2
  | ok c =>
    obtain ⟨rfl, rfl⟩ := h₁
    simp only [Routine.run_bind, Prog.always_bind]
    -- the send context of the ACK message is what is missing
    apply Prog.Always.mono (acknowledgeAndRegister_starving s.nextChannel info _)
    rintro _ s₂ ⟨rfl, hspoils⟩
    have hnone : (s₂.dataChannels s.nextChannel).transportArg = none := by
      rw [hspoils.dataChannels]
      simp [Transport.addChannel, Transport.modifyChannel]
    simp only [if_true, run_dataChannelDestroy_of_unregistered hnone, Prog.always_ret]
    -- neither outcome is possible with the release of a pointer that is not set
    rintro (hunopened | ⟨c, hoccupies, -⟩)
    · exact absurd hunopened (hspoils.not_unopened rfl rfl)
    · -- the slot is still free
      have hslot := congrFun hoccupies.channels info.rcvSid
      have hsame := congrFun hspoils.channels info.rcvSid
      rw [Function.update_self] at hslot
      have hnothing : s₂.channels info.rcvSid = none := hsame.trans h.free
      exact Option.some_ne_none c (hslot.symm.trans hnothing)

/-! ## Section 5: All or nothing -/

/-- **Opening a channel is all or nothing, exactly if** there is memory for the context of a message
    that has to wait, or no message has to be sent. -/
theorem opens_whole_or_not_at_all (s : Transport) (x : Circumstances) :
    (∀ parameters handlers,
      ((dataChannelCreate parameters handlers).run s).Always x.mayFail
        (OpensLocally parameters s) ↔
          (x.short = true → ¬ s.MayPropose x.dtlsState x.role parameters)) ∧
    ∀ bufferIn info,
      ((handleDataChannelOpenMessage bufferIn info).run s).Always x.mayFail
        (fun _ s' => OpensRemotely info.rcvSid s s') ↔
          (x.short = true → ¬ s.MayAnswer x.role bufferIn info.rcvSid) := by
  -- where memory may be short, no message has to be sent
  have hample : ∀ {p : Prop}, (x.short = true → ¬ p) → p → AmpleContexts x.mayFail := by
    intro p hshort hp
    apply x.ampleContexts_mayFail
    by_contra htrue
    exact hshort (by simpa using htrue) hp
  constructor
  · intro parameters handlers
    constructor
    · intro halways hshort hpropose
      apply (dataChannelCreate_starving hpropose handlers).not_always x.exists_starving
        (x.mayFail_of_starving hshort) _ halways
      rintro _ s' ⟨rfl, hopened⟩
      exact hopened
    · intro hshort
      apply dataChannelCreate_always x.mayFail_refusesWith trivial handlers
      rintro _ _ _ rfl rfl hpropose
      exact hample hshort hpropose
  · intro bufferIn info
    constructor
    · intro halways hshort hanswer
      exact (handleDataChannelOpenMessage_starving hanswer).not_always x.exists_starving
        (x.mayFail_of_starving hshort) (fun _ _ h => h) halways
    · intro hshort
      apply handleDataChannelOpenMessage_always x.mayFail_refusesWith trivial
      rintro _ _ rfl hanswer
      exact hample hshort hanswer

omit [MessageBuffer] in
/-- Creating a channel on a new transport, while there is memory. -/
theorem opens_whole_or_not_at_all_create :
    ((@dataChannelCreate listMessageBuffer .plain {}).run
      (.create false false false false 1200)).Always
        (Circumstances.mayFail ⟨.ok .connected, .ok .client, false⟩)
        (OpensLocally .plain (.create false false false false 1200)) :=
  ((@opens_whole_or_not_at_all listMessageBuffer _ _).1 .plain {}).mpr
    fun h => absurd h Bool.false_ne_true

omit [MessageBuffer] in
/-- **A channel is not opened, and a pointer that has not been set is released.** -/
theorem not_opens_whole_or_not_at_all : ∃ r s',
    ((@dataChannelCreate listMessageBuffer .plain {}).run
      (.create false false false false 1200)).Outcome mayFail r s' ∧
      ¬ OpensLocally .plain (.create false false false false 1200) r s' := by
  let x : Circumstances := ⟨.ok .connected, .ok .client, true⟩
  have hpropose : (Transport.create false false false false 1200).MayPropose x.dtlsState x.role
      .plain :=
    ⟨rfl, rfl, ⟨.client, 0, 0, rfl, rfl, rfl⟩, by decide, by decide⟩
  obtain ⟨r, s', hout, hr, hopened⟩ :=
    (@dataChannelCreate_starving listMessageBuffer x _ _ hpropose {}).exists_outcome
      x.exists_starving
  refine ⟨r, s', hout.mono ?_, ?_⟩
  · intro o s r h
    have hfails := x.mayFail_of_starving rfl o s r h
    cases o with
    | allocSendContext | roleGetter | stateGetter => trivial
    | _ => exact hfails
  · subst hr
    exact hopened

end RawrtcDataChannel
