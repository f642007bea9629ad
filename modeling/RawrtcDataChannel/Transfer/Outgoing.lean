import RawrtcDataChannel.Transfer.Chunks

/-!
# Sending under back-pressure

The routines that hand messages to SCTP, and what they do to the outbox the transport stands for.
usrsctp may accept any part of what it is offered, or nothing. A message that was not accepted
completely waits in the queue, with its position, and nothing overtakes it.
-/

namespace RawrtcDataChannel

open Reentrant

/-! ## Section 1: Back-pressure -/

/-- usrsctp accepts some of the bytes it is offered, or none, or would block. -/
def Accepts (buffer : Bytes) : Except Failure Nat → Prop
  | .ok written => written ≤ buffer.length
  | .error error => error.val = .tryAgainLater

/-- All that is sent is accepted or deferred. -/
def AcceptsAll (answers : (o : Op) → Transport → o.Reply → Prop) : Prop :=
  ∀ buffer info flags s written, answers (.sendv buffer info flags) s written →
    Accepts buffer written

/-- usrsctp accepts at most what it is offered, and if it refuses then with one of these codes. -/
def RefusesWith (refusal : Code → Prop) (answers : (o : Op) → Transport → o.Reply → Prop) : Prop :=
  ∀ buffer info flags s written, answers (.sendv buffer info flags) s written →
    match written with
    | .ok written => written ≤ buffer.length
    | .error error => refusal error.val

theorem AcceptsAll.refusesWith {answers : (o : Op) → Transport → o.Reply → Prop}
    (h : AcceptsAll answers) : RefusesWith (· = .tryAgainLater) answers := by
  intro buffer info flags s written hwritten
  have haccepts := h buffer info flags s written hwritten
  cases written <;> exact haccepts

/-- Every step may fail. All that is certain is that usrsctp accepts at most what it is offered. -/
def mayFail : (o : Op) → Transport → o.Reply → Prop
  | .sendv buffer _ _, _, .ok written => written ≤ buffer.length
  | _, _, _ => True

theorem mayFail_refusesWith : RefusesWith (fun _ => True) mayFail := by
  intro buffer info flags s written h
  cases written with
  | ok written => exact h
  | error error => trivial

/-- Memory allocation succeeds. -/
def AmpleMemory (answers : (o : Op) → Transport → o.Reply → Prop) : Prop :=
  ∀ s ok, answers .alloc s ok → (ok : Bool) = true

/-- There is memory for every send context. -/
def AmpleContexts (answers : (o : Op) → Transport → o.Reply → Prop) : Prop :=
  ∀ s ok, answers .allocSendContext s ok → (ok : Bool) = true

/-- Memory is short, but not while a message that is not in the queue has been accepted in part. -/
def ShortOfMemory (s : Transport) : Prop :=
  ¬ (s.bufferedMessagesOutgoing = [] ∧ unfinished s.history)

/-- Any back-pressure from usrsctp. Memory may be short where this does no harm, but not for a
    send context. -/
def backPressure : (o : Op) → Transport → o.Reply → Prop
  | .sendv buffer _ _, _, written => Accepts buffer written
  | .alloc, s, ok => (ok : Bool) = false → ShortOfMemory s
  | .allocSendContext, _, ok => (ok : Bool) = true
  | _, _, _ => True

theorem acceptsAll_backPressure : AcceptsAll backPressure :=
  fun _ _ _ _ _ h => h

theorem ampleContexts_backPressure : AmpleContexts backPressure :=
  fun _ _ h => h

/-- Add events to the history. -/
def Transport.logAll (t : Transport) (es : List Event) : Transport :=
  { t with history := t.history ++ es }

@[simp] theorem Transport.logAll_nil (t : Transport) : t.logAll [] = t := by
  simp [logAll]

theorem Transport.logAll_log (t : Transport) (e : Event) (es : List Event) :
    (t.log e).logAll es = t.logAll (e :: es) := by
  simp [logAll, log]

variable {answers : (o : Op) → Transport → o.Reply → Prop}

/-! ## Section 2: Handing one message over -/

/-- The bytes the loop of `sctp_transport_send` offers are the next chunk. -/
theorem OutMessage.take_eq_chunk (m : OutMessage) (chunkSize offset : Nat) :
    (m.bytes.drop offset).take (if chunkSize < m.bytes.length - offset then chunkSize
      else m.bytes.length - offset) = m.chunk chunkSize offset := by
  unfold chunk
  split
  · rfl
  · rw [List.take_of_length_le, List.take_of_length_le]
    · simp only [List.length_drop]
      omega
    · simp

/-- The send information the loop of `sctp_transport_send` offers them with is the one of the next
    chunk. -/
theorem OutMessage.info_eq_chunk (m : OutMessage) {info : SendInfo} (hinfo : info.setEor true = m.info)
    (chunkSize : Nat) {offset : Nat} (hoffset : offset < m.bytes.length) :
    (if chunkSize < m.bytes.length - offset then info.setEor false else info.setEor true) =
      m.info.setEor (decide (offset + (m.chunk chunkSize offset).length = m.bytes.length)) := by
  have hlength : (m.chunk chunkSize offset).length = min chunkSize (m.bytes.length - offset) := by
    simp [chunk]
  have hsame : ∀ eor, m.info.setEor eor = info.setEor eor := by
    intro eor
    rw [← hinfo, SendInfo.setEor_setEor]
  rw [hsame, hlength]
  split
  · have hmore : ¬ offset + min chunkSize (m.bytes.length - offset) = m.bytes.length := by omega
    rw [decide_eq_false hmore]
  · have hlast : offset + min chunkSize (m.bytes.length - offset) = m.bytes.length := by omega
    rw [decide_eq_true hlast]

section Refusals

variable {refusal : Code → Prop}

/-- The loop of `sctp_transport_send` hands over the message from where it stands, until it has
    been accepted as a whole or usrsctp refuses. -/
theorem sctpTransportSendLoop_hands (hanswers : RefusesWith refusal answers)
    (hfull : refusal .tryAgainLater) (m : OutMessage) (fuel : Nat) (buffer : Mbuf)
    (info : SendInfo) (s : Transport) (offset : Nat) (hrest : buffer.rest = m.bytes.drop offset)
    (hoffset : offset < m.bytes.length) (hinfo : info.setEor true = m.info)
    (hfuel : m.bytes.length - offset < fuel) :
    ((sctpTransportSendLoop true m.flags fuel buffer info).run s).Always answers fun r s' =>
      ∃ es offset', s' = s.logAll es ∧ Chunks s.usrsctpChunkSize m offset es offset' ∧
        r.2.1.rest = m.bytes.drop offset' ∧ r.2.2.setEor true = m.info ∧
        (r.1 = .success ∧ offset' = m.bytes.length ∨
          (r.1 ≠ .success ∧ refusal r.1) ∧ offset' < m.bytes.length) := by
  induction fuel generalizing buffer info s offset with
  | zero => omega
  | succ fuel ih =>
    have hleft : buffer.getLeft = m.bytes.length - offset := by
      simp [Mbuf.getLeft, hrest]
    simp only [sctpTransportSendLoop, Routine.run_bind, Routine.run_get, Prog.bind, hleft, hrest,
      m.take_eq_chunk, if_true, m.info_eq_chunk hinfo _ hoffset, run_usrsctpSendv]
    have hinfo' : (m.info.setEor (decide (offset + (m.chunk s.usrsctpChunkSize offset).length =
        m.bytes.length))).setEor true = m.info := by
      rw [SendInfo.setEor_setEor, m.setEor_info]
    intro written hwritten
    replace hwritten := hanswers _ _ _ _ _ hwritten
    cases written with
    | error error =>
      -- usrsctp would block, or fails
      refine ⟨[m.sendChunk s.usrsctpChunkSize offset (.error error)], offset, rfl, ?_, hrest, hinfo',
        .inr ⟨⟨error.property, hwritten⟩, hoffset⟩⟩
      exact .cons (.error error) hoffset (Nat.zero_le _) (.nil _)
    | ok k =>
      have hk : k ≤ (m.chunk s.usrsctpChunkSize offset).length := hwritten
      have hrest' : (buffer.advance k).rest = m.bytes.drop (offset + k) := by
        rw [Mbuf.rest_advance, hrest, List.drop_drop]
      have hleft' : (buffer.advance k).getLeft = m.bytes.length - (offset + k) := by
        simp [Mbuf.getLeft, hrest']
      have hle := m.length_chunk_le s.usrsctpChunkSize offset
      simp only [Routine.run_ite, hleft']
      split
      · -- usrsctp accepts nothing
        next hzero =>
        subst hzero
        refine ⟨[m.sendChunk s.usrsctpChunkSize offset (.ok 0)], offset, rfl, ?_, hrest, hinfo',
          .inr ⟨⟨Code.noConfusion, hfull⟩, hoffset⟩⟩
        exact .cons (.ok 0) hoffset (Nat.zero_le _) (.nil _)
      · next hzero =>
        split
        · -- some of the message is left
          next hmore =>
          apply Prog.Always.mono (ih _ _ (s.log (m.sendChunk s.usrsctpChunkSize offset (.ok k)))
            (offset + k) hrest' (by omega) hinfo' (by omega))
          intro r s' h
          obtain ⟨es, offset', rfl, hchunks, hrest₁, hinfo₁, hcode⟩ := h
          refine ⟨m.sendChunk s.usrsctpChunkSize offset (.ok k) :: es, offset',
            s.logAll_log _ es, ?_, hrest₁, hinfo₁, hcode⟩
          exact .cons (.ok k) hoffset hk hchunks
        · -- the message has been accepted as a whole
          next hend =>
          refine ⟨[m.sendChunk s.usrsctpChunkSize offset (.ok k)], offset + k, rfl, ?_, hrest', hinfo',
            .inl ⟨rfl, by omega⟩⟩
          exact .cons (.ok k) hoffset hk (.nil _)

/-- `sctp_transport_send` on a connected transport. -/
theorem sctpTransportSend_hands (hanswers : RefusesWith refusal answers)
    (hfull : refusal .tryAgainLater) (m : OutMessage) (buffer : Mbuf) (s : Transport)
    (offset : Nat) (hconnected : s.state = .connected) (hrest : buffer.rest = m.bytes.drop offset)
    (hoffset : offset < m.bytes.length) :
    ((sctpTransportSend buffer m.info m.flags).run s).Always answers fun r s' =>
      ∃ es offset', s' = s.logAll es ∧ Chunks s.usrsctpChunkSize m offset es offset' ∧
        r.2.1.rest = m.bytes.drop offset' ∧ r.2.2 = m.info ∧
        (r.1 = .success ∧ offset' = m.bytes.length ∨
          (r.1 ≠ .success ∧ refusal r.1) ∧ offset' < m.bytes.length) := by
  obtain ⟨i, hi, heor⟩ := m.eor
  have hconnected' : ¬ s.state ≠ .connected := not_not.mpr hconnected
  have hleft : buffer.getLeft = m.bytes.length - offset := by
    simp [Mbuf.getLeft, hrest]
  simp only [sctpTransportSend, Routine.run_bind, Routine.run_get, Prog.bind, Routine.run_ite,
    if_neg hconnected', hi, heor, Prog.always_bind]
  apply Prog.Always.mono (sctpTransportSendLoop_hands hanswers hfull m _ buffer m.info s offset
    hrest hoffset m.setEor_info (by omega))
  intro r s' h
  obtain ⟨es, offset', hs', hchunks, hrest', hinfo', hcode⟩ := h
  exact ⟨es, offset', hs', hchunks, hrest', hinfo', hcode⟩

end Refusals

/-- `sctp_transport_send` on a connected transport, where usrsctp only ever would block. -/
theorem sctpTransportSend_always (hanswers : AcceptsAll answers) (m : OutMessage) (buffer : Mbuf)
    (s : Transport) (offset : Nat) (hconnected : s.state = .connected)
    (hrest : buffer.rest = m.bytes.drop offset) (hoffset : offset < m.bytes.length) :
    ((sctpTransportSend buffer m.info m.flags).run s).Always answers fun r s' =>
      ∃ es offset', s' = s.logAll es ∧ Chunks s.usrsctpChunkSize m offset es offset' ∧
        r.2.1.rest = m.bytes.drop offset' ∧ r.2.2 = m.info ∧
        (r.1 = .success ∧ offset' = m.bytes.length ∨
          r.1 = .tryAgainLater ∧ offset' < m.bytes.length) := by
  apply Prog.Always.mono (sctpTransportSend_hands hanswers.refusesWith rfl m buffer s offset
    hconnected hrest hoffset)
  intro r s' h
  obtain ⟨es, offset', hs', hchunks, hrest', hinfo', hcode⟩ := h
  exact ⟨es, offset', hs', hchunks, hrest', hinfo', hcode.imp id fun h => ⟨h.1.2, h.2⟩⟩

/-! ## Section 3: Queueing a message -/

/-- `message_send_context_create` for a message that has an EOR flag. -/
theorem messageSendContextCreate_always (m : OutMessage) (s : Transport) :
    ((messageSendContextCreate m.info m.flags).run s).Always answers fun r s' =>
      s' = s ∧ (r = .ok m.context ∨ r = .error .noMemory ∧ answers .allocSendContext s false) := by
  obtain ⟨i, hi, -⟩ := m.eor
  simp only [messageSendContextCreate, Routine.run_bind, run_allocSendContext, Prog.bind]
  intro ok hok
  cases ok with
  | false => exact ⟨rfl, .inr ⟨rfl, hok⟩⟩
  | true =>
    unfold OutMessage.context
    cases hinfo : m.info with
    | other => simp [hinfo, SendInfo.sndInfo?] at hi
    | noinfo => exact ⟨rfl, .inl rfl⟩
    | sndinfo j => exact ⟨rfl, .inl rfl⟩
    | spa spa => exact ⟨rfl, .inl rfl⟩

/-- Put a message at the end of the queue. -/
def Transport.enqueue (s : Transport) (message : BufferedMessage) : Transport :=
  { s with bufferedMessagesOutgoing := s.bufferedMessagesOutgoing ++ [message] }

section Queue

variable [MessageBuffer]

/-- The part of `sctp_send` that buffers a message, if there is memory for its send context. -/
theorem bufferMessage_always (hcontexts : AmpleContexts answers) (m : OutMessage) (buffer : Mbuf)
    (s : Transport) : ((bufferMessage buffer m.info m.flags).run s).Always answers fun r s' =>
      r = .success ∧ s' = s.enqueue ⟨buffer, m.context⟩ ∨
      r ≠ .success ∧ s' = s ∧ answers .alloc s false := by
  simp only [bufferMessage, Routine.run_bind, Prog.always_bind]
  apply Prog.Always.mono (messageSendContextCreate_always m s)
  intro r s' h
  obtain ⟨rfl, rfl | ⟨rfl, hshort⟩⟩ := h
  · simp only [Routine.run_bind, run_alloc, Prog.bind]
    intro ok hok
    cases ok with
    | false => exact .inr ⟨by decide, rfl, hok⟩
    | true =>
      refine .inl ⟨rfl, ?_⟩
      simp only [MessageBuffer.append_eq]
      rfl
  · cases hcontexts _ _ hshort

end Queue

/-! ## Section 4: The outbox a transport stands for -/

/-- The queue holds the waiting messages, the first one without the bytes that have been handed
    over. -/
def Matches : Nat → List OutMessage → List BufferedMessage → Prop
  | offset, [], [] => offset = 0
  | offset, m :: ms, q :: queue => offset < m.bytes.length ∧ q.buffer.rest = m.bytes.drop offset ∧
      q.context = m.context ∧ Matches 0 ms queue
  | _, _, _ => False

theorem Matches.append {offset : Nat} {ms : List OutMessage} {queue : List BufferedMessage}
    (h : Matches offset ms queue) {m : OutMessage} {buffer : Mbuf} (hrest : buffer.rest = m.bytes) :
    Matches offset (ms ++ [m]) (queue ++ [⟨buffer, m.context⟩]) := by
  induction ms generalizing offset queue with
  | nil =>
    cases queue with
    | nil =>
      obtain rfl : offset = 0 := h
      exact ⟨m.length_pos, hrest, rfl, rfl⟩
    | cons q queue => exact h.elim
  | cons m' ms ih =>
    cases queue with
    | nil => exact h.elim
    | cons q queue => exact ⟨h.1, h.2.1, h.2.2.1, ih h.2.2.2⟩

theorem Matches.nil_iff {offset : Nat} {ms : List OutMessage} (h : Matches offset ms []) :
    ms = [] ∧ offset = 0 := by
  cases ms with
  | nil => exact ⟨rfl, h⟩
  | cons m ms => exact h.elim

/-- The transport, with this queue, stands for the outbox. -/
structure Represents (requested : List OutMessage) (b : Outbox) (queue : List BufferedMessage)
    (s : Transport) : Prop where
  handedOver : handedOver s.history = b.handedOver
  queue : Matches b.offset b.waiting queue
  framed : Framed s.usrsctpChunkSize b.messages requested s.history

namespace Represents

variable {requested : List OutMessage} {b : Outbox} {queue : List BufferedMessage} {s : Transport}

/-- A message that is put at the end of the queue. -/
theorem push (h : Represents requested b queue s) (m : OutMessage) :
    Represents requested (b.push m) (queue ++ [⟨m.buffer, m.context⟩]) s where
  handedOver := h.handedOver.trans (b.handedOver_push m).symm
  queue := h.queue.append rfl
  framed := by
    apply h.framed.mono _ (List.Subset.refl _)
    rw [b.messages_push m]
    exact List.prefix_append _ _

/-- Bytes of the first waiting message are handed over. -/
theorem advance (h : Represents requested b queue s) {m : OutMessage} {ms : List OutMessage}
    (hwaiting : b.waiting = m :: ms) (hm : m ∈ requested) {es : List Event} {offset' : Nat}
    (hes : Chunks s.usrsctpChunkSize m b.offset es offset') (b' : Outbox)
    (hmessages : b'.messages = b.messages)
    (hb' : b'.handedOver = b.sent.flatMap OutMessage.tagged ++ m.tagged.take offset')
    {queue' : List BufferedMessage} (hqueue' : Matches b'.offset b'.waiting queue') :
    Represents requested b' queue' (s.logAll es) := by
  have hlt : b.offset < m.bytes.length := by
    have hq := h.queue
    rw [hwaiting] at hq
    cases queue with
    | nil => exact hq.elim
    | cons q queue => exact hq.1
  -- of the first waiting message just the bytes before the offset are gone
  have hpast : RawrtcDataChannel.handedOver s.history =
      b.sent.flatMap OutMessage.tagged ++ m.tagged.take b.offset := by
    rw [h.handedOver, Outbox.handedOver, hwaiting, List.flatMap_cons,
      List.take_append_of_le_length]
    rw [OutMessage.length_tagged]
    exact hlt.le
  refine ⟨?_, hqueue', ?_⟩
  · have hsplit : offset' = b.offset + (offset' - b.offset) := by
      have := hes.le
      omega
    rw [Transport.logAll, handedOver_append, hpast, hes.handedOver, hb', List.append_assoc,
      ← List.take_add, ← hsplit]
  · rw [hmessages]
    exact h.framed.append_chunks hes (List.prefix_append _ _) hm hpast

end Represents

/-! ## Section 5: The queue is worked off -/

section Flush

variable [MessageBuffer] {requested : List OutMessage}

/-- Clearing the queue of a connected transport: messages are handed over from the front until
    usrsctp refuses one, and that one stays in front. -/
theorem clear_always (queue : List BufferedMessage) (b : Outbox) (s : Transport)
    (hconnected : s.state = .connected) (h : Represents requested b queue s)
    (hrequested : b.waiting ⊆ requested) :
    ((MessageBuffer.clear sctpSendDeferredMessage queue).run s).Always backPressure fun r s' =>
      ∃ es b', s' = s.logAll es ∧ b'.messages = b.messages ∧ Represents requested b' r.2 s' := by
  induction queue generalizing b s with
  | nil =>
    rw [MessageBuffer.clear_nil]
    exact ⟨[], b, by simp, rfl, h⟩
  | cons q queue ih =>
    -- what is in front of the queue is the first message of the outbox that waits
    obtain ⟨m, ms, hwaiting⟩ : ∃ m ms, b.waiting = m :: ms := by
      cases hw : b.waiting with
      | nil =>
        have hq := h.queue
        rw [hw] at hq
        exact hq.elim
      | cons m ms => exact ⟨m, ms, rfl⟩
    have hm : m ∈ requested := hrequested (by simp [hwaiting])
    have hq := h.queue
    rw [hwaiting] at hq
    obtain ⟨hoffset, hrest, hcontext, hqueue⟩ := hq
    obtain ⟨i, hi, -⟩ := m.eor
    have hinfo : q.context.info = m.info := by rw [hcontext]; rfl
    have hflags : q.context.flags = m.flags := by rw [hcontext]; rfl
    rw [MessageBuffer.clear_cons]
    simp only [sctpSendDeferredMessage, hinfo, hi, hflags, Routine.run_bind, Prog.always_bind]
    apply Prog.Always.mono (sctpTransportSend_always acceptsAll_backPressure m q.buffer s b.offset
      hconnected hrest hoffset)
    intro r s' hr
    obtain ⟨es, offset', rfl, hchunks, hrest', hinfo', ⟨hcode, hend⟩ | ⟨hcode, hmore⟩⟩ := hr
    · -- the message has been handed over, go on with the next one
      let b' : Outbox := ⟨b.sent ++ [m], ms, 0, .inl rfl⟩
      have hmessages : b'.messages = b.messages := by
        simp [b', Outbox.messages, hwaiting]
      have hb' : b'.handedOver = b.sent.flatMap OutMessage.tagged ++ m.tagged.take offset' := by
        rw [hend, List.take_of_length_le (by simp)]
        simp [b', Outbox.handedOver]
      have hcontinue : r.1 ≠ .tryAgainLater := by rw [hcode]; decide
      simp only [Routine.run_pure, Prog.always_ret, ne_eq, hcontinue, not_false_eq_true,
        decide_true, if_true]
      apply Prog.Always.mono (ih b' (s.logAll es) hconnected
        (h.advance hwaiting hm hchunks b' hmessages hb' hqueue) ?_)
      · intro r' s'' h'
        obtain ⟨es', b'', rfl, hmessages', hrep⟩ := h'
        exact ⟨es ++ es', b'', by simp [Transport.logAll], hmessages'.trans hmessages, hrep⟩
      · intro m' hm'
        exact hrequested (by rw [hwaiting]; exact List.mem_cons_of_mem _ hm')
    · -- the message has to wait
      let b' : Outbox := ⟨b.sent, m :: ms, offset', .inr ⟨m, ms, rfl, hmore⟩⟩
      have hmessages : b'.messages = b.messages := by
        simp [b', Outbox.messages, hwaiting]
      have hb' : b'.handedOver = b.sent.flatMap OutMessage.tagged ++ m.tagged.take offset' := by
        simp only [b', Outbox.handedOver, List.flatMap_cons]
        rw [List.take_append_of_le_length (by simp [hmore.le])]
      simp only [Routine.run_pure, Prog.always_ret, hcode, ne_eq, not_true, decide_false,
        Bool.false_eq_true, if_false]
      refine ⟨es, b', rfl, hmessages, h.advance hwaiting hm hchunks b' hmessages hb' ?_⟩
      refine ⟨hmore, hrest', ?_, hqueue⟩
      unfold OutMessage.context
      rw [← hinfo']

/-- `sctp_send_deferred_messages` on a connected transport. -/
theorem sctpSendDeferredMessages_always (b : Outbox) (s : Transport)
    (hconnected : s.state = .connected) (h : Represents requested b s.bufferedMessagesOutgoing s)
    (hrequested : b.waiting ⊆ requested) :
    (sctpSendDeferredMessages.run s).Always backPressure fun _ s' =>
      s'.usrsctpChunkSize = s.usrsctpChunkSize ∧ ∃ b', b'.messages = b.messages ∧
        Represents requested b' s'.bufferedMessagesOutgoing s' := by
  simp only [sctpSendDeferredMessages, Routine.run_bind, Routine.run_get, Prog.bind,
    Prog.always_bind]
  apply Prog.Always.mono (clear_always _ b s hconnected h hrequested)
  intro r s' h'
  obtain ⟨es, b', rfl, hmessages, hrep⟩ := h'
  exact ⟨rfl, b', hmessages, hrep.handedOver, hrep.queue, hrep.framed⟩

end Flush

/-! ## Section 6: `sctp_send` -/

namespace Represents

variable {requested : List OutMessage} {b : Outbox} {queue : List BufferedMessage} {s : Transport}

/-- If no message waits in the queue, none waits in the outbox. -/
theorem waiting_eq_nil (h : Represents requested b [] s) : b.waiting = [] ∧ b.offset = 0 :=
  h.queue.nil_iff

/-- Without waiting messages, all of them have been handed over. -/
theorem handedOver_eq (h : Represents requested b [] s) :
    RawrtcDataChannel.handedOver s.history = b.messages.flatMap OutMessage.tagged :=
  h.handedOver.trans (b.handedOver_of_nil h.waiting_eq_nil.1)

/-- A message is handed over in part, or as a whole, while no other one waits. -/
theorem direct (h : Represents requested b [] s) {m : OutMessage} (hm : m ∈ requested)
    {es : List Event} {offset' : Nat} (hes : Chunks s.usrsctpChunkSize m 0 es offset')
    (b' : Outbox) (hmessages : b'.messages = b.messages ++ [m])
    (hb' : b'.handedOver = b.sent.flatMap OutMessage.tagged ++ m.tagged.take offset')
    {queue' : List BufferedMessage} (hqueue' : Matches b'.offset b'.waiting queue') :
    Represents requested b' queue' (s.logAll es) := by
  obtain ⟨hwaiting, hoffset⟩ := h.waiting_eq_nil
  have hpush : (b.push m).waiting = [m] := by simp [Outbox.push, hwaiting]
  have hpush' : (b.push m).offset = 0 := hoffset
  apply (h.push m).advance hpush hm (hpush' ▸ hes) b' _ hb' hqueue'
  rw [hmessages, b.messages_push m]

/-- A message is offered in vain while no other one waits. -/
theorem refused (h : Represents requested b [] s) {m : OutMessage} (hm : m ∈ requested)
    {es : List Event} (hes : Chunks s.usrsctpChunkSize m 0 es 0) :
    Represents requested b [] (s.logAll es) where
  handedOver := by
    rw [Transport.logAll, handedOver_append, hes.handedOver, Nat.sub_self, List.take_zero,
      List.append_nil]
    exact h.handedOver
  queue := h.queue
  framed := by
    apply h.framed.append_chunks hes (List.prefix_refl _) hm
    rw [h.handedOver_eq, List.take_zero, List.append_nil]

end Represents

section Send

variable [MessageBuffer] {requested : List OutMessage}

/-- The message that `sctp_send` could not hand over as a whole is queued. -/
theorem bufferRemaining_always (m : OutMessage) (b : Outbox) (t : Transport)
    (h : Represents requested b [] t) (hm : m ∈ requested) (hidle : t.bufferedMessagesOutgoing = [])
    {buffer : Mbuf} {es : List Event} {offset' : Nat}
    (hes : Chunks t.usrsctpChunkSize m 0 es offset') (hrest : buffer.rest = m.bytes.drop offset')
    (hmore : offset' < m.bytes.length) :
    ((bufferMessage buffer m.info m.flags).run (t.logAll es)).Always backPressure fun r s' =>
      s'.usrsctpChunkSize = t.usrsctpChunkSize ∧
        ∃ b', b'.messages = (if r = .success then b.messages ++ [m] else b.messages) ∧
          Represents requested b' s'.bufferedMessagesOutgoing s' := by
  have hwaiting := h.waiting_eq_nil.1
  apply Prog.Always.mono (bufferMessage_always ampleContexts_backPressure m buffer (t.logAll es))
  intro r s' hr
  obtain ⟨rfl, rfl⟩ | ⟨hfailed, rfl, hshort⟩ := hr
  · -- the rest of the message waits
    let b' : Outbox := ⟨b.sent, [m], offset', .inr ⟨m, [], rfl, hmore⟩⟩
    have hmessages : b'.messages = b.messages ++ [m] := by
      simp [b', Outbox.messages, hwaiting]
    have hb' : b'.handedOver = b.sent.flatMap OutMessage.tagged ++ m.tagged.take offset' := by
      simp [b', Outbox.handedOver]
    have hqueue' : Matches b'.offset b'.waiting [⟨buffer, m.context⟩] :=
      ⟨hmore, hrest, rfl, rfl⟩
    have hrep := h.direct hm hes b' hmessages hb' hqueue'
    refine ⟨rfl, b', by rw [if_pos rfl, hmessages], hrep.handedOver, ?_, hrep.framed⟩
    simp only [Transport.enqueue, Transport.logAll, hidle, List.nil_append]
    exact hqueue'
  · -- memory is short, so nothing has been accepted yet
    have hnone : offset' = 0 := by
      by_contra hsome
      apply hshort rfl
      refine ⟨hidle, ?_⟩
      exact hes.unfinished (Nat.pos_of_ne_zero hsome) hmore t.history
    subst hnone
    refine ⟨rfl, b, by rw [if_neg hfailed], ?_⟩
    have hqueue : (t.logAll es).bufferedMessagesOutgoing = [] := hidle
    rw [hqueue]
    exact h.refused hm hes

/-- `sctp_send`: a message that it accepts comes after all others. -/
theorem sctpSend_always (m : OutMessage) (b : Outbox) (s : Transport)
    (h : Represents requested b s.bufferedMessagesOutgoing s) (hm : m ∈ requested) :
    ((sctpSend m.buffer m.info m.flags).run s).Always backPressure fun r s' =>
      s'.usrsctpChunkSize = s.usrsctpChunkSize ∧
        ∃ b', b'.messages = (if r = .success then b.messages ++ [m] else b.messages) ∧
          Represents requested b' s'.bufferedMessagesOutgoing s' := by
  unfold sctpSend
  simp only [Routine.run_bind, Routine.run_modify, Routine.run_get, Prog.bind, Routine.run_ite]
  -- the flag that is cleared does not matter
  let t : Transport := { s with flags := { s.flags with bufferedAmountLow := false } }
  have h' : Represents requested b s.bufferedMessagesOutgoing t :=
    ⟨h.handedOver, h.queue, h.framed⟩
  split
  · next hdirect =>
    obtain ⟨hconnected, hidle⟩ := hdirect
    rw [hidle] at h'
    have hwaiting := h'.waiting_eq_nil.1
    simp only [Prog.always_bind]
    apply Prog.Always.mono (sctpTransportSend_always acceptsAll_backPressure m m.buffer t 0
      hconnected rfl m.length_pos)
    intro r s' hr
    obtain ⟨code, buffer, info⟩ := r
    obtain ⟨es, offset', rfl, hchunks, hrest, rfl, ⟨rfl, rfl⟩ | ⟨rfl, hmore⟩⟩ := hr
    · -- the message has been handed over
      let b' : Outbox := ⟨b.sent ++ [m], [], 0, .inl rfl⟩
      have hmessages : b'.messages = b.messages ++ [m] := by
        simp [b', Outbox.messages, hwaiting]
      have hb' : b'.handedOver =
          b.sent.flatMap OutMessage.tagged ++ m.tagged.take m.bytes.length := by
        rw [List.take_of_length_le (by simp)]
        simp [b', Outbox.handedOver]
      refine ⟨rfl, b', by rw [if_pos rfl, hmessages], ?_⟩
      have hqueue : (t.logAll es).bufferedMessagesOutgoing = [] := hidle
      rw [hqueue]
      exact h'.direct hm hchunks b' hmessages hb' rfl
    · exact bufferRemaining_always m b t h' hm hidle hchunks hrest hmore
  · -- the message has to wait for others, or for the connection
    apply Prog.Always.mono (bufferMessage_always ampleContexts_backPressure m m.buffer t)
    intro r s' hr
    obtain ⟨rfl, rfl⟩ | ⟨hfailed, rfl, -⟩ := hr
    · refine ⟨rfl, b.push m, by rw [if_pos rfl, b.messages_push m], ?_⟩
      have hrep := h'.push m
      exact ⟨hrep.handedOver, hrep.queue, hrep.framed⟩
    · exact ⟨rfl, b, by rw [if_neg hfailed], h'⟩

end Send

end RawrtcDataChannel
