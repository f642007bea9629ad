import RawrtcDataChannel.Lifecycle.GenuineClose
import RawrtcDataChannel.Reassembly
import RawrtcDataChannel.Transfer.Frames
import RawrtcDataChannel.Transfer.SentInOrder

/-!
# Whole records

What usrsctp accepts on a stream belongs to one record, until a chunk that carries the EOR flag has
been accepted as a whole. So a message of which a part has been accepted must not be given up: the
next message of the same channel would continue its record.

`sctp_send` and `sctp_send_deferred_message` give a message up whenever usrsctp fails in another way
than by blocking, wherever in the message this happens. Records are whole in the runs in which it
only happens between messages.
-/

namespace RawrtcDataChannel

open Reentrant Reassembly

/-! ## Section 1: Records -/

/-- The stream a message is sent on. -/
def OutMessage.sid (m : OutMessage) : Nat :=
  (m.info.sndInfo?.map SndInfo.sndSid).getD 0

/-- What usrsctp accepts on a stream, and whether it ends the record. -/
def Event.acceptedOn? (sid : Nat) : Event → Option (Bytes × Bool)
  | .sendv buffer info _ (.ok written) =>
    if written = 0 ∨ (info.sndInfo?.map SndInfo.sndSid).getD 0 ≠ sid then none
    else some (buffer.take written,
      (info.sndInfo?.map SndInfo.eor).getD false && decide (buffer.length ≤ written))
  | _ => none

/-- What has been accepted on a stream, in order. -/
def acceptedOn (sid : Nat) (history : List Event) : List (Bytes × Bool) :=
  history.filterMap (Event.acceptedOn? sid)

/-- The records that have been completed on a stream. -/
def recordsOn (sid : Nat) (history : List Event) : List Bytes :=
  assembled [] (acceptedOn sid history)

/-- The bytes of the record that has not been completed. -/
def openRecordOn (sid : Nat) (history : List Event) : Bytes :=
  remainder [] (acceptedOn sid history)

/-- On every stream, each completed record is one of the requested messages, in their order, and the
    record that has been begun is the beginning of a later one. -/
def WholeRecords (requested : List OutMessage) (history : List Event) : Prop :=
  ∀ sid, ∃ sent : List OutMessage, sent.Sublist (requested.filter (·.sid = sid)) ∧
    recordsOn sid history = sent.map OutMessage.bytes ∧
    (openRecordOn sid history = [] ∨
      ∃ m, (sent ++ [m]).Sublist (requested.filter (·.sid = sid)) ∧
        openRecordOn sid history <+: m.bytes)

@[simp] theorem acceptedOn_append (sid : Nat) (history history' : List Event) :
    acceptedOn sid (history ++ history') = acceptedOn sid history ++ acceptedOn sid history' := by
  simp [acceptedOn]

theorem recordsOn_append (sid : Nat) (history history' : List Event) :
    recordsOn sid (history ++ history') = recordsOn sid history ++
      assembled (openRecordOn sid history) (acceptedOn sid history') := by
  rw [recordsOn, acceptedOn_append, assembled_append]
  rfl

theorem openRecordOn_append (sid : Nat) (history history' : List Event) :
    openRecordOn sid (history ++ history') =
      remainder (openRecordOn sid history) (acceptedOn sid history') := by
  rw [openRecordOn, acceptedOn_append, remainder_append]
  rfl

/-! ## Section 2: The chunks of a message make one record -/

theorem SendInfo.sndSid_setEor (info : SendInfo) (eor : Bool) :
    (info.setEor eor).sndInfo?.map SndInfo.sndSid = info.sndInfo?.map SndInfo.sndSid := by
  cases info <;> rfl

section Chunks

variable {chunkSize : Nat} {m : OutMessage} {offset offset' : Nat} {es : List Event}

/-- Chunks are accepted on the stream of their message. -/
theorem Chunks.acceptedOn_of_ne (h : Chunks chunkSize m offset es offset') {sid : Nat}
    (hsid : m.sid ≠ sid) : acceptedOn sid es = [] := by
  induction h with
  | nil => rfl
  | @cons offset offset' es written _ _ _ ih =>
    have hnone : (m.sendChunk chunkSize offset written).acceptedOn? sid = none := by
      cases written with
      | error error => rfl
      | ok k =>
        apply if_pos
        rw [SendInfo.sndSid_setEor]
        exact .inr hsid
    unfold acceptedOn
    rw [List.filterMap_cons_none hnone]
    exact ih

/-- A chunk ends the record if it has been accepted up to the end of the message. -/
theorem OutMessage.acceptedOn_sendChunk (m : OutMessage) {chunkSize offset k : Nat}
    (hk : k ≤ (m.chunk chunkSize offset).length) :
    (m.sendChunk chunkSize offset (.ok k)).acceptedOn? m.sid =
      if k = 0 then none else
        some ((m.bytes.drop offset).take k, decide (offset + k = m.bytes.length)) := by
  let eor := decide (offset + (m.chunk chunkSize offset).length = m.bytes.length)
  have hsid : ((m.info.setEor eor).sndInfo?.map SndInfo.sndSid).getD 0 = m.sid := by
    rw [SendInfo.sndSid_setEor]
    rfl
  -- what is accepted of the chunk is the message from the offset on
  have hbytes : (m.chunk chunkSize offset).take k = (m.bytes.drop offset).take k := by
    have hmin : k ≤ chunkSize := by
      simp only [chunk, List.length_take] at hk
      omega
    rw [chunk, List.take_take, min_eq_left hmin]
  show (if k = 0 ∨ ((m.info.setEor eor).sndInfo?.map SndInfo.sndSid).getD 0 ≠ m.sid then none
    else some ((m.chunk chunkSize offset).take k, ((m.info.setEor eor).sndInfo?.map
      SndInfo.eor).getD false && decide ((m.chunk chunkSize offset).length ≤ k))) = _
  by_cases hzero : k = 0
  · rw [if_pos (.inl hzero), if_pos hzero]
  · rw [if_neg (not_or.mpr ⟨hzero, not_not.mpr hsid⟩), if_neg hzero, m.eor_setEor, hbytes,
      ← Bool.decide_and]
    -- the record ends if the whole chunk is accepted and reaches the end of the message
    have hend : (offset + (m.chunk chunkSize offset).length = m.bytes.length ∧
        (m.chunk chunkSize offset).length ≤ k) ↔ offset + k = m.bytes.length := by
      have hle := m.length_chunk_le chunkSize offset
      omega
    rw [decide_eq_decide.mpr hend]

/-- A message whose beginning is open goes on with its chunks, and is one record at its end. -/
theorem Chunks.accepted (h : Chunks chunkSize m offset es offset')
    (hoffset : offset < m.bytes.length) :
    assembled (m.bytes.take offset) (acceptedOn m.sid es) =
        (if offset' = m.bytes.length then [m.bytes] else []) ∧
      remainder (m.bytes.take offset) (acceptedOn m.sid es) =
        if offset' = m.bytes.length then [] else m.bytes.take offset' := by
  induction h with
  | nil offset =>
    rw [if_neg hoffset.ne, if_neg hoffset.ne]
    exact ⟨rfl, rfl⟩
  | @cons offset offset' es written _ hwritten hrest ih =>
    cases written with
    -- nothing has been accepted
    | error error => exact ih hoffset
    | ok k =>
      simp only [acceptedBytes] at hwritten hrest ih
      have hpiece := m.acceptedOn_sendChunk hwritten
      have hle := m.length_chunk_le chunkSize offset
      unfold acceptedOn
      rw [List.filterMap_cons, hpiece]
      -- only pieces that are not empty count as accepted
      by_cases hzero : k = 0
      · subst hzero
        exact ih hoffset
      · have hjoin : m.bytes.take offset ++ (m.bytes.drop offset).take k =
            m.bytes.take (offset + k) := List.take_add.symm
        rw [if_neg hzero]
        by_cases hend : offset + k = m.bytes.length
        · -- no chunk follows the last one
          have hnil : es = [] ∧ offset' = m.bytes.length := by
            rw [hend] at hrest
            cases hrest with
            | nil => exact ⟨rfl, rfl⟩
            | cons _ hlt => exact absurd rfl hlt.ne
          obtain ⟨rfl, rfl⟩ := hnil
          simp only [hend, decide_true, assembled, remainder, hjoin, if_true, List.take_length]
          exact ⟨rfl, rfl⟩
        · simp only [hend, decide_false, assembled, remainder, hjoin]
          exact ih (by omega)

end Chunks

/-! ## Section 3: The outbox, as far as records are concerned -/

/-- What the record that is open on a stream contains, if this much has been handed over of the
    first waiting message. -/
def begunOn (sid offset : Nat) : List OutMessage → Bytes
  | [] => []
  | m :: _ => if m.sid = sid then m.bytes.take offset else []

theorem begunOn_zero (sid : Nat) (ms : List OutMessage) : begunOn sid 0 ms = [] := by
  cases ms <;> simp [begunOn]

/-- What has happened, and this queue, stand for the outbox: its messages have been sent as whole
    records. Messages that have been given up are not in it. -/
structure Conveys (requested : List OutMessage) (b : Outbox) (queue : List BufferedMessage)
    (history : List Event) : Prop where
  records : ∀ sid, recordsOn sid history = (b.sent.filter (·.sid = sid)).map OutMessage.bytes
  openRecord : ∀ sid, openRecordOn sid history = begunOn sid b.offset b.waiting
  unfinished : 0 < b.offset → unfinished history
  queue : Matches b.offset b.waiting queue
  requested : b.messages.Sublist requested

namespace Conveys

variable {requested : List OutMessage} {b : Outbox} {queue : List BufferedMessage}
  {history : List Event}

/-- What has been conveyed are whole records. -/
theorem wholeRecords (h : Conveys requested b queue history) : WholeRecords requested history := by
  intro sid
  refine ⟨b.sent.filter (·.sid = sid), ?_, h.records sid, ?_⟩
  · exact ((List.sublist_append_left _ _).trans h.requested).filter _
  · rw [h.openRecord sid]
    have hrequested := h.requested
    unfold Outbox.messages at hrequested
    cases hwaiting : b.waiting with
    | nil => exact .inl rfl
    | cons m ms =>
      by_cases hsid : m.sid = sid
      · rw [begunOn, if_pos hsid]
        refine .inr ⟨m, ?_, List.take_prefix _ _⟩
        rw [hwaiting] at hrequested
        have hfirst : (b.sent ++ [m]).Sublist requested := by
          apply List.Sublist.trans _ hrequested
          exact (List.append_sublist_append_left _).mpr (by simp)
        have hfilter := hfirst.filter (·.sid = sid)
        rw [List.filter_append] at hfilter
        simpa [hsid] using hfilter
      · exact .inl (if_neg hsid)

/-- A message is put at the end of the queue. -/
theorem push (h : Conveys requested b queue history) {m : OutMessage} {buffer : Mbuf}
    (hrest : buffer.rest = m.bytes) :
    Conveys (requested ++ [m]) (b.push m) (queue ++ [⟨buffer, m.context⟩]) history where
  records := h.records
  openRecord sid := by
    rw [h.openRecord sid]
    show begunOn sid b.offset b.waiting = begunOn sid b.offset (b.waiting ++ [m])
    rcases b.offset_lt with hzero | ⟨m', ms, hwaiting, -⟩
    · rw [hzero, begunOn_zero, begunOn_zero]
    · rw [hwaiting]
      rfl
  unfinished := h.unfinished
  queue := h.queue.append hrest
  requested := by
    rw [b.messages_push m]
    exact h.requested.append (List.Sublist.refl _)

/-- More messages have been requested. -/
theorem mono (h : Conveys requested b queue history) {requested' : List OutMessage}
    (hmore : requested.Sublist requested') : Conveys requested' b queue history :=
  ⟨h.records, h.openRecord, h.unfinished, h.queue, h.requested.trans hmore⟩

/-- Nothing is sent. -/
theorem unsending {s s' : Transport}
    (h : Conveys requested b s.bufferedMessagesOutgoing s.history)
    (hs' : Unsending s s') : Conveys requested b s'.bufferedMessagesOutgoing s'.history := by
  obtain ⟨es, hes, hnone⟩ := hs'.history
  -- only calls of usrsctp_sendv count for records
  have hnothing : ∀ sid, acceptedOn sid es = [] := by
    intro sid
    unfold acceptedOn
    rw [List.filterMap_eq_nil_iff]
    intro e he
    cases e with
    | sendv buffer info flags written => exact absurd rfl (hnone _ he buffer info flags written)
    | _ => rfl
  have hends : es.filterMap Event.endsMessage? = [] := by
    rw [List.filterMap_eq_nil_iff]
    intro e he
    cases e with
    | sendv buffer info flags written => exact absurd rfl (hnone _ he buffer info flags written)
    | _ => rfl
  refine ⟨?_, ?_, ?_, ?_, h.requested⟩
  · intro sid
    rw [hes, recordsOn_append, hnothing, h.records sid]
    exact List.append_nil _
  · intro sid
    rw [hes, openRecordOn_append, hnothing, h.openRecord sid]
    rfl
  · intro hoffset
    rw [hes]
    unfold RawrtcDataChannel.unfinished
    rw [List.filterMap_append, hends, List.append_nil]
    exact h.unfinished hoffset
  · rw [hs'.queue]
    exact h.queue

/-- A message that has been handed over in part leaves the history unfinished. -/
theorem unfinished_of_chunks (h : Conveys requested b queue history) {m : OutMessage} {chunkSize : Nat}
    {es : List Event} {offset' : Nat} (hes : Chunks chunkSize m b.offset es offset')
    (hmore : offset' < m.bytes.length) (hoffset : 0 < offset') :
    RawrtcDataChannel.unfinished (history ++ es) := by
  by_cases hsame : b.offset = offset'
  · have hpast := h.unfinished (hsame ▸ hoffset)
    unfold RawrtcDataChannel.unfinished
    rw [List.filterMap_append, hes.filterMap_endsMessage?_nil hsame, List.append_nil]
    exact hpast
  · exact hes.unfinished (lt_of_le_of_ne hes.le hsame) hmore history

/-- Bytes of the first waiting message are handed over. -/
theorem chunks (h : Conveys requested b queue history) {m : OutMessage} {ms : List OutMessage}
    (hwaiting : b.waiting = m :: ms) {chunkSize offset' : Nat} {es : List Event}
    (hes : Chunks chunkSize m b.offset es offset') (sid : Nat) :
    recordsOn sid (history ++ es) = recordsOn sid history ++
        (if m.sid = sid ∧ offset' = m.bytes.length then [m.bytes] else []) ∧
      openRecordOn sid (history ++ es) =
        if m.sid = sid ∧ offset' ≠ m.bytes.length then m.bytes.take offset' else [] := by
  have hopen := h.openRecord sid
  rw [hwaiting, begunOn] at hopen
  rw [recordsOn_append, openRecordOn_append]
  by_cases hsid : m.sid = sid
  · rw [if_pos hsid] at hopen
    have hoffset : b.offset < m.bytes.length := by
      have hqueue := h.queue
      rw [hwaiting] at hqueue
      cases queue with
      | nil => exact hqueue.elim
      | cons q queue => exact hqueue.1
    -- on its own stream the message goes on where it was interrupted
    have hrest := hes.accepted hoffset
    rw [hsid] at hrest
    rw [hopen, hrest.1, hrest.2]
    by_cases hend : offset' = m.bytes.length <;> simp [hsid, hend]
  · -- other streams are not concerned
    rw [if_neg hsid] at hopen
    rw [hes.acceptedOn_of_ne hsid, hopen]
    simp [hsid, assembled, remainder]

/-- The first waiting message has been handed over as a whole. -/
theorem finish (h : Conveys requested b queue history) {m : OutMessage} {ms : List OutMessage}
    (hwaiting : b.waiting = m :: ms) {chunkSize : Nat} {es : List Event}
    (hes : Chunks chunkSize m b.offset es m.bytes.length)
    {queue' : List BufferedMessage} (hqueue' : Matches 0 ms queue') :
    Conveys requested ⟨b.sent ++ [m], ms, 0, .inl rfl⟩ queue' (history ++ es) where
  records sid := by
    rw [(h.chunks hwaiting hes sid).1, h.records sid, List.filter_append, List.map_append]
    by_cases hsid : m.sid = sid <;> simp [hsid]
  openRecord sid := by
    rw [(h.chunks hwaiting hes sid).2, begunOn_zero]
    simp
  unfinished hoffset := absurd hoffset (lt_irrefl 0)
  queue := hqueue'
  requested := by
    have hrequested := h.requested
    unfold Outbox.messages at hrequested ⊢
    rw [hwaiting] at hrequested
    simpa using hrequested

/-- The first waiting message has been handed over in part. -/
theorem advance (h : Conveys requested b queue history) {m : OutMessage} {ms : List OutMessage}
    (hwaiting : b.waiting = m :: ms) {chunkSize : Nat} {es : List Event} {offset' : Nat}
    (hes : Chunks chunkSize m b.offset es offset') (hmore : offset' < m.bytes.length)
    {queue' : List BufferedMessage} (hqueue' : Matches offset' (m :: ms) queue') :
    Conveys requested ⟨b.sent, m :: ms, offset', .inr ⟨m, ms, rfl, hmore⟩⟩ queue'
      (history ++ es) where
  records sid := by
    rw [(h.chunks hwaiting hes sid).1, h.records sid]
    simp [hmore.ne]
  openRecord sid := by
    rw [(h.chunks hwaiting hes sid).2, begunOn]
    simp [hmore.ne]
  unfinished hoffset := h.unfinished_of_chunks hes hmore hoffset
  queue := hqueue'
  requested := by
    have hrequested := h.requested
    unfold Outbox.messages at hrequested ⊢
    rw [hwaiting] at hrequested
    exact hrequested

/-- The first waiting message is given up, and nothing of it has been accepted. -/
theorem giveUp (h : Conveys requested b queue history) {m : OutMessage} {ms : List OutMessage}
    (hwaiting : b.waiting = m :: ms) {chunkSize : Nat} {es : List Event}
    (hes : Chunks chunkSize m b.offset es 0) {queue' : List BufferedMessage}
    (hqueue' : Matches 0 ms queue') :
    Conveys requested ⟨b.sent, ms, 0, .inl rfl⟩ queue' (history ++ es) where
  records sid := by
    rw [(h.chunks hwaiting hes sid).1, h.records sid]
    simp [m.length_pos.ne]
  openRecord sid := by
    rw [(h.chunks hwaiting hes sid).2, begunOn_zero]
    simp
  unfinished hoffset := absurd hoffset (lt_irrefl 0)
  queue := hqueue'
  requested := by
    have hrequested := h.requested
    unfold Outbox.messages at hrequested ⊢
    rw [hwaiting] at hrequested
    apply List.Sublist.trans _ hrequested
    exact (List.append_sublist_append_left _).mpr (List.sublist_cons_self _ _)

end Conveys

/-! ## Section 4: Failures between messages -/

/-- usrsctp accepts some of what it is offered, would block, or fails in any other way, and memory
    may be short. But a message of which a part has been accepted is not given up for this, and no
    memory for the send context of a message that has to wait is missing. -/
def failsBetweenMessages : (o : Op) → Transport → o.Reply → Prop
  | .sendv buffer _ _, _, .ok written => written ≤ buffer.length
  | .sendv _ _ _, s, .error error => error.val = .tryAgainLater ∨ ¬ unfinished s.history
  | .alloc, s, ok => (ok : Bool) = false → ShortOfMemory s
  | .allocSendContext, _, ok => (ok : Bool) = true
  | _, _, _ => True

theorem ampleContexts_failsBetweenMessages : AmpleContexts failsBetweenMessages :=
  fun _ _ h => h

theorem failsBetweenMessages_refusesWith :
    RefusesWith (fun _ => True) failsBetweenMessages := by
  intro buffer info flags s written h
  cases written with
  | ok written => exact h
  | error error => trivial

/-- A call in vain ends no message. -/
theorem unfinished_log_error (history : List Event) (buffer : Bytes) (info : SendInfo) (flags : Nat)
    (error : Failure) :
    unfinished (history ++ [.sendv buffer info flags (.error error)]) ↔ unfinished history := by
  unfold unfinished
  rw [List.filterMap_append]
  simp [Event.endsMessage?]

/-- The loop of `sctp_transport_send` only stops for good where no message has been begun. -/
theorem sctpTransportSendLoop_givesUp (eorSet : Bool) (flags fuel : Nat) (buffer : Mbuf)
    (info : SendInfo) (s : Transport) (hfuel : buffer.getLeft < fuel) :
    ((sctpTransportSendLoop eorSet flags fuel buffer info).run s).Always failsBetweenMessages
      fun r s' => r.1 = .success ∨ r.1 = .tryAgainLater ∨ ¬ unfinished s'.history := by
  induction fuel generalizing buffer info s with
  | zero => omega
  | succ fuel ih =>
    simp only [sctpTransportSendLoop, Routine.run_bind, Routine.run_get, Prog.bind,
      run_usrsctpSendv]
    intro written hwritten
    cases written with
    | error error =>
      rcases hwritten with hblock | hfinished
      · exact .inr (.inl hblock)
      · -- any other error comes between messages
        refine .inr (.inr ?_)
        rw [← unfinished_log_error] at hfinished
        exact hfinished
    | ok k =>
      have hk : k ≤ (buffer.rest.take _).length := hwritten
      simp only [Routine.run_ite]
      split
      · exact .inr (.inl rfl)
      · split
        · -- something was accepted, so there is less left
          apply ih
          rw [List.length_take] at hk
          have hleft : (buffer.advance k).getLeft = buffer.getLeft - k := by
            simp [Mbuf.getLeft, Mbuf.rest_advance]
          have hlength : buffer.getLeft = buffer.rest.length := rfl
          omega
        · exact .inl rfl

/-- `sctp_transport_send` on a connected transport. -/
theorem sctpTransportSend_givesUp (m : OutMessage) (buffer : Mbuf) (s : Transport)
    (hconnected : s.state = .connected) :
    ((sctpTransportSend buffer m.info m.flags).run s).Always failsBetweenMessages
      fun r s' => r.1 = .success ∨ r.1 = .tryAgainLater ∨ ¬ unfinished s'.history := by
  obtain ⟨i, hi, -⟩ := m.eor
  have hconnected' : ¬ s.state ≠ .connected := not_not.mpr hconnected
  simp only [sctpTransportSend, Routine.run_bind, Routine.run_get, Prog.bind, Routine.run_ite,
    if_neg hconnected', hi, Prog.always_bind]
  exact Prog.Always.mono (sctpTransportSendLoop_givesUp _ _ _ _ _ s (Nat.lt_succ_self _))
    fun r s' h => h

/-- The transport has sent messages as whole records. One that is not connected has begun none. -/
structure Transport.SendsWhole (requested : List OutMessage) (s : Transport) : Prop where
  conveys : ∃ b, Conveys requested b s.bufferedMessagesOutgoing s.history
  online : s.state = .connected ∨ ¬ unfinished s.history

section Send

variable [MessageBuffer] {requested : List OutMessage}

/-- Clearing the queue of a connected transport. -/
theorem clear_conveys (queue : List BufferedMessage) (b : Outbox) (s : Transport)
    (hconnected : s.state = .connected) (h : Conveys requested b queue s.history) :
    ((MessageBuffer.clear sctpSendDeferredMessage queue).run s).Always failsBetweenMessages
      fun r s' => ∃ b', Conveys requested b' r.2 s'.history := by
  induction queue generalizing b s with
  | nil =>
    rw [MessageBuffer.clear_nil]
    exact ⟨b, h⟩
  | cons q queue ih =>
    -- the front of the queue is the first message of the outbox that waits
    obtain ⟨m, ms, hwaiting⟩ : ∃ m ms, b.waiting = m :: ms := by
      cases hw : b.waiting with
      | nil =>
        have hq := h.queue
        rw [hw] at hq
        exact hq.elim
      | cons m ms => exact ⟨m, ms, rfl⟩
    have hq := h.queue
    rw [hwaiting] at hq
    obtain ⟨hoffset, hrest, hcontext, hqueue⟩ := hq
    obtain ⟨i, hi, -⟩ := m.eor
    have hinfo : q.context.info = m.info := by rw [hcontext]; rfl
    have hflags : q.context.flags = m.flags := by rw [hcontext]; rfl
    rw [MessageBuffer.clear_cons]
    simp only [sctpSendDeferredMessage, hinfo, hi, hflags, Routine.run_bind, Prog.always_bind]
    apply Prog.Always.mono ((sctpTransportSend_hands failsBetweenMessages_refusesWith trivial m
      q.buffer s b.offset hconnected hrest hoffset).and
      (sctpTransportSend_givesUp m q.buffer s hconnected))
    intro r s' hr
    obtain ⟨⟨es, offset', rfl, hchunks, hrest', hinfo', hend⟩, hstop⟩ := hr
    by_cases hwait : r.1 = .tryAgainLater
    · -- the message has to wait
      have hmore : offset' < m.bytes.length := by
        rcases hend with ⟨hcode, -⟩ | ⟨-, hmore⟩
        · rw [hwait] at hcode
          cases hcode
        · exact hmore
      simp only [Routine.run_pure, Prog.always_ret, hwait, ne_eq, not_true, decide_false,
        Bool.false_eq_true, if_false]
      refine ⟨_, h.advance hwaiting hchunks hmore ⟨hmore, hrest', ?_, hqueue⟩⟩
      unfold OutMessage.context
      rw [← hinfo']
    · simp only [Routine.run_pure, Prog.always_ret, ne_eq, hwait, not_false_eq_true, decide_true,
        if_true]
      rcases hend with ⟨-, rfl⟩ | ⟨⟨hcode, -⟩, hmore⟩
      · exact ih _ _ hconnected (h.finish hwaiting hchunks hqueue)
      · -- the message is given up, so nothing of it has been accepted
        have hfinished := (hstop.resolve_left hcode).resolve_left hwait
        have hnone : offset' = 0 := by
          by_contra hsome
          exact hfinished (h.unfinished_of_chunks hchunks hmore (Nat.pos_of_ne_zero hsome))
        subst hnone
        exact ih _ _ hconnected (h.giveUp hwaiting hchunks hqueue)

/-- Without a connection, clearing the queue gives up all messages. -/
theorem clear_drops (queue : List BufferedMessage) (s : Transport)
    (hoffline : s.state ≠ .connected) :
    (MessageBuffer.clear sctpSendDeferredMessage queue).run s = .ret (.success, []) s := by
  induction queue with
  | nil =>
    rw [MessageBuffer.clear_nil]
    rfl
  | cons q queue ih =>
    rw [MessageBuffer.clear_cons]
    cases hinfo : q.context.info.sndInfo? with
    | none => simp [sctpSendDeferredMessage, hinfo, Prog.bind, ih]
    | some i => simp [sctpSendDeferredMessage, sctpTransportSend, hinfo, hoffline, Prog.bind, ih]

/-- `sctp_send_deferred_messages`. -/
theorem sctpSendDeferredMessages_conveys (s : Transport) (h : s.SendsWhole requested) :
    (sctpSendDeferredMessages.run s).Always failsBetweenMessages fun _ s' =>
      s'.SendsWhole requested := by
  obtain ⟨⟨b, h⟩, honline⟩ := h
  simp only [sctpSendDeferredMessages, Routine.run_bind, Routine.run_get, Prog.bind,
    Prog.always_bind]
  by_cases hconnected : s.state = .connected
  · apply Prog.Always.mono ((clear_conveys _ b s hconnected h).and (clear_within _ s).always)
    intro r s' h'
    obtain ⟨hconveys, _, _, _, rfl, -⟩ := h'
    exact ⟨hconveys, .inl hconnected⟩
  · rw [clear_drops _ s hconnected]
    -- all messages are given up, which leaves no record open
    have hfinished := honline.resolve_left hconnected
    have hoffset : b.offset = 0 := by
      by_contra hsome
      exact hfinished (h.unfinished (Nat.pos_of_ne_zero hsome))
    refine ⟨⟨⟨b.sent, [], 0, .inl rfl⟩, h.records, ?_, ?_, rfl, ?_⟩, .inr hfinished⟩
    · intro sid
      rw [h.openRecord sid, hoffset, begunOn_zero, begunOn_zero]
    · intro hpos
      exact absurd hpos (lt_irrefl 0)
    · apply List.Sublist.trans _ h.requested
      simp [Outbox.messages]

/-- `sctp_send`, as far as the queue and the history are concerned. -/
theorem sctpSend_conveys (m : OutMessage) (b : Outbox) (s : Transport)
    (h : Conveys requested b s.bufferedMessagesOutgoing s.history) :
    ((sctpSend m.buffer m.info m.flags).run s).Always failsBetweenMessages fun _ s' =>
      ∃ b', Conveys (requested ++ [m]) b' s'.bufferedMessagesOutgoing s'.history := by
  unfold sctpSend
  simp only [Routine.run_bind, Routine.run_modify, Routine.run_get, Prog.bind, Routine.run_ite]
  let t : Transport := { s with flags := { s.flags with bufferedAmountLow := false } }
  split
  · next hdirect =>
    obtain ⟨hconnected, hidle⟩ := hdirect
    have hidle' : t.bufferedMessagesOutgoing = [] := hidle
    rw [show s.bufferedMessagesOutgoing = [] from hidle] at h
    obtain ⟨hnil, hzero⟩ := h.queue.nil_iff
    -- the message is the only one that waits
    have hpush : Conveys (requested ++ [m]) (b.push m) ([] ++ [⟨m.buffer, m.context⟩]) t.history :=
      h.push rfl
    have hwaiting : (b.push m).waiting = [m] := by simp [Outbox.push, hnil]
    have hoffset : (b.push m).offset = 0 := hzero
    have hdropped : ∀ es offset', Chunks t.usrsctpChunkSize m 0 es offset' →
        offset' < m.bytes.length → ¬ unfinished (t.history ++ es) →
        ∃ b', Conveys (requested ++ [m]) b' [] (t.history ++ es) := by
      intro es offset' hchunks hmore hfinished
      rw [← hoffset] at hchunks
      have hnone : offset' = 0 := by
        by_contra hsome
        exact hfinished (hpush.unfinished_of_chunks hchunks hmore (Nat.pos_of_ne_zero hsome))
      subst hnone
      exact ⟨_, hpush.giveUp hwaiting hchunks rfl⟩
    rw [Prog.always_bind]
    apply Prog.Always.mono ((sctpTransportSend_hands failsBetweenMessages_refusesWith trivial m
      m.buffer t 0 hconnected rfl m.length_pos).and
      (sctpTransportSend_givesUp m m.buffer t hconnected))
    intro r s' hr
    obtain ⟨code, buffer, info⟩ := r
    obtain ⟨⟨es, offset', rfl, hchunks, hrest, rfl, hend⟩, hstop⟩ := hr
    have hqueue : (t.logAll es).bufferedMessagesOutgoing = [] := hidle'
    rcases hend with ⟨rfl, rfl⟩ | ⟨⟨hcode, -⟩, hmore⟩
    · show ∃ b', Conveys (requested ++ [m]) b' (t.logAll es).bufferedMessagesOutgoing _
      rw [hqueue]
      rw [← hoffset] at hchunks
      exact ⟨_, hpush.finish hwaiting hchunks rfl⟩
    · cases code with
      | success => exact absurd rfl hcode
      | tryAgainLater =>
        apply Prog.Always.mono (bufferMessage_always ampleContexts_failsBetweenMessages m buffer
          (t.logAll es))
        intro r s' hr
        rcases hr with ⟨-, rfl⟩ | ⟨-, rfl, hshort⟩
        · -- the rest of the message waits
          have hwhole : (b.push m).offset = 0 := hoffset
          rw [← hwhole] at hchunks
          simp only [Transport.enqueue, hqueue, List.nil_append]
          exact ⟨_, hpush.advance hwaiting hchunks hmore ⟨hmore, hrest, rfl, rfl⟩⟩
        · rw [hqueue]
          apply hdropped es offset' hchunks hmore
          intro hbegun
          exact hshort rfl ⟨hqueue, hbegun⟩
      | _ =>
        show ∃ b', Conveys (requested ++ [m]) b' (t.logAll es).bufferedMessagesOutgoing _
        rw [hqueue]
        exact hdropped es offset' hchunks hmore
          ((hstop.resolve_left hcode).resolve_left Code.noConfusion)
  · -- the message has to wait for others, or for the connection
    apply Prog.Always.mono (bufferMessage_always ampleContexts_failsBetweenMessages m m.buffer t)
    intro r s' hr
    rcases hr with ⟨-, rfl⟩ | ⟨-, rfl, -⟩
    · exact ⟨b.push m, h.push rfl⟩
    · exact ⟨b, h.mono (List.sublist_append_left _ _)⟩

/-- `sctp_send`. -/
theorem sctpSend_sendsWhole (m : OutMessage) (s : Transport) (h : s.SendsWhole requested) :
    ((sctpSend m.buffer m.info m.flags).run s).Always failsBetweenMessages fun _ s' =>
      s'.SendsWhole (requested ++ [m]) := by
  obtain ⟨⟨b, h⟩, honline⟩ := h
  apply Prog.Always.mono ((sctpSend_conveys m b s h).and
    (sctpSend_hands failsBetweenMessages_refusesWith trivial ampleContexts_failsBetweenMessages m
      s))
  intro r s' h'
  obtain ⟨hconveys, queue, es, offset, rfl, -, hdirect, -⟩ := h'
  refine ⟨hconveys, ?_⟩
  rcases hdirect with rfl | ⟨hconnected, -⟩
  · apply honline.imp id
    intro hfinished
    rw [Transport.afterSends, List.append_nil]
    exact hfinished
  · exact .inl hconnected

/-- `write_event_handler`. -/
theorem writeEventHandler_sendsWhole (s : Transport) (h : s.SendsWhole requested) :
    (writeEventHandler.run s).Always failsBetweenMessages fun _ s' =>
      s'.SendsWhole requested := by
  simp only [writeEventHandler, Routine.run_bind, Routine.run_get, Prog.bind, Routine.run_ite]
  split
  · exact h
  · split
    · exact h
    · let t : Transport := { s with flags := { s.flags with sendingInProgress := true } }
      simp only [Routine.run_modify, Prog.bind, Prog.always_bind]
      apply Prog.Always.mono (sctpSendDeferredMessages_conveys t ⟨h.conveys, h.online⟩)
      intro _ s' h'
      exact ⟨h'.conveys, h'.online⟩

/-- The association coming up connects the transport, or does nothing. -/
theorem commUp_online {answers : (o : Op) → Transport → o.Reply → Prop} (s : Transport) :
    ((handleAssociationChangeEvent .commUp).run s).Always answers fun _ s' =>
      s' = s ∨ s'.state = .connected := by
  have hclosing : TransportState.connected ≠ .closed := by decide
  simp only [handleAssociationChangeEvent, Routine.run_bind, Routine.run_get, Prog.bind,
    Routine.run_ite]
  split
  · simp only [setState, if_neg hclosing, if_true, Routine.run_bind, Routine.run_modify,
      run_logEvent, Prog.bind, Prog.always_bind]
    apply Prog.Always.mono (sctpSendDeferredMessages_keeps _)
    intro _ s₁ h₁
    apply Prog.Always.mono (setDataChannelStates_keeps (R := SameLife) _ _ s₁)
    intro _ s₂ h₂
    -- neither sending nor opening channels changes the state of the transport
    have hconnected : s₂.state = .connected := by
      obtain ⟨_, _, _, rfl, -⟩ := h₁
      exact h₂.state
    simp only [Routine.run_get, Prog.always_ret, Routine.run_ite]
    split
    · exact Prog.Always.mono (callHandler_keeps (R := SameLife) _ s₂) fun _ s₃ h₃ =>
        .inr (h₃.state.trans hconnected)
    · exact .inr hconnected
  · exact .inl rfl

/-- `handle_association_change_event` when the association is up. -/
theorem commUp_sendsWhole (s : Transport) (h : s.SendsWhole requested) :
    ((handleAssociationChangeEvent .commUp).run s).Always failsBetweenMessages fun _ s' =>
      s'.SendsWhole requested := by
  have hflushes : ((handleAssociationChangeEvent .commUp).run s).Always failsBetweenMessages
      fun _ s' => ∃ b, Conveys requested b s'.bufferedMessagesOutgoing s'.history :=
    commUp_flushes
      (fun s₁ s₂ h₂ ⟨b, hb⟩ => ⟨b, hb.unsending h₂⟩)
      (fun s₁ hconnected hb => Prog.Always.mono
        (sctpSendDeferredMessages_conveys s₁ ⟨hb, .inl hconnected⟩) fun _ _ h' => h'.conveys)
      h.conveys
  apply Prog.Always.mono (hflushes.and (commUp_online s))
  intro _ s' h'
  refine ⟨h'.1, ?_⟩
  rcases h'.2 with rfl | hconnected
  · exact h.online
  · exact .inl hconnected

end Send

/-! ## Section 5: Runs -/

/-- Sending, with these surroundings. -/
def recordHost [MessageBuffer] (answers : (o : Op) → Transport → o.Reply → Prop) :
    Host SendCall Op Op.Reply Transport Result where
  code := SendCall.run
  permits _ _ _ := True
  answers := answers

section Runs

variable [MessageBuffer]

/-- One step of a run. -/
theorem turn_sendsWhole {s s' : Transport} {a : SendCall} {r : Result}
    (hturn : Turn (recordHost failsBetweenMessages) s a r s') {done : List (SendCall × Result)}
    (h : s.SendsWhole (requested done)) : s'.SendsWhole (requested (done ++ [(a, r)])) := by
  obtain ⟨-, hout⟩ := hturn
  unfold requested at h ⊢
  rw [List.filterMap_append]
  cases a with
  | send m =>
    obtain ⟨code, s₁, hcode, hrest⟩ := Prog.outcome_bind_iff.mp hout
    obtain ⟨rfl, rfl⟩ := Prog.outcome_ret_iff.mp hrest
    exact Prog.always_iff.mp (sctpSend_sendsWhole m s h) _ _ hcode
  | commUp =>
    obtain ⟨_, s₁, hup, hrest⟩ := Prog.outcome_bind_iff.mp hout
    obtain ⟨rfl, rfl⟩ := Prog.outcome_ret_iff.mp hrest
    -- no message is requested by this
    have hnone : [(SendCall.commUp, Result.done)].filterMap SendCall.requested? = [] := rfl
    rw [hnone, List.append_nil]
    exact Prog.always_iff.mp (commUp_sendsWhole s h) _ _ hup
  | writeEvent =>
    obtain ⟨_, s₁, hwrite, hrest⟩ := Prog.outcome_bind_iff.mp hout
    obtain ⟨rfl, rfl⟩ := Prog.outcome_ret_iff.mp hrest
    have hnone : ∀ r, [(SendCall.writeEvent, r)].filterMap SendCall.requested? = [] := fun _ => rfl
    rw [hnone, List.append_nil]
    exact Prog.always_iff.mp (writeEventHandler_sendsWhole s h) _ _ hwrite

/-- **Records are whole** in every run in which no message is given up once a part of it has been
    accepted, whatever else usrsctp answers. -/
theorem records_whole {s₀ s : Transport} {done : List (SendCall × Result)}
    (hidle : s₀.bufferedMessagesOutgoing = []) (hnew : s₀.history = [])
    (h : Turns (recordHost failsBetweenMessages) s₀ done s) :
    WholeRecords (requested done) s.history := by
  suffices hwhole : s.SendsWhole (requested done) by
    obtain ⟨b, hb⟩ := hwhole.conveys
    exact hb.wholeRecords
  induction h with
  | nil =>
    refine ⟨⟨.empty, ?_, ?_, ?_, ?_, List.nil_sublist _⟩, .inr ?_⟩
    · intro sid
      rw [hnew]
      rfl
    · intro sid
      rw [hnew]
      rfl
    · intro hpos
      exact absurd hpos (lt_irrefl 0)
    · rw [hidle]
      rfl
    · rw [hnew]
      decide
  | snoc _ hturn ih => exact turn_sendsWhole hturn ih

end Runs

/-! ## Section 6: Two failures -/

/-- The call of `usrsctp_sendv` with this number fails, and everything else succeeds. -/
def failingOracle (n : Nat) : (o : Op) → Transport → o.Reply
  | .sendv buffer _ _, s =>
    if s.history.countP Event.isSendv = n then .error ⟨.unknownError, by decide⟩
    else .ok buffer.length
  | o, s => obligingOracle o s

theorem failingOracle_mayFail (n : Nat) (o : Op) (s : Transport) :
    mayFail o s (failingOracle n o s) := by
  cases o with
  | sendv buffer info flags =>
    by_cases hcount : s.history.countP Event.isSendv = n
    · have hfails : failingOracle n (.sendv buffer info flags) s =
          .error ⟨.unknownError, by decide⟩ := if_pos hcount
      rw [hfails]
      trivial
    · have hsucceeds : failingOracle n (.sendv buffer info flags) s = .ok buffer.length :=
        if_neg hcount
      rw [hsucceeds]
      exact le_refl _
  | _ => trivial

/-- The first call fails before any message has been begun. -/
theorem failingOracle_failsBetweenMessages (o : Op) (s : Transport) :
    failsBetweenMessages o s (failingOracle 0 o s) := by
  cases o with
  | alloc =>
    intro h
    cases h
  | allocSendContext => rfl
  | sendv buffer info flags =>
    by_cases hnone : s.history.countP Event.isSendv = 0
    · have hfails : failingOracle 0 (.sendv buffer info flags) s =
          .error ⟨.unknownError, by decide⟩ := if_pos hnone
      rw [hfails]
      refine .inr ?_
      rw [List.countP_eq_zero] at hnone
      have hends : s.history.filterMap Event.endsMessage? = [] := by
        rw [List.filterMap_eq_nil_iff]
        intro e he
        cases e with
        | sendv => exact absurd rfl (hnone _ he)
        | _ => rfl
      unfold unfinished
      rw [hends]
      decide
    · have hsucceeds : failingOracle 0 (.sendv buffer info flags) s = .ok buffer.length :=
        if_neg hnone
      rw [hsucceeds]
      exact le_refl _
  | _ => trivial

/-- A message that is given up as a whole does no harm to the next one. -/
theorem records_whole_next :
    let H := @recordHost listMessageBuffer failsBetweenMessages
    let m₁ := OutMessage.ofBytes 0 [1, 2, 3] (by decide)
    let m₂ := OutMessage.ofBytes 0 [4] (by decide)
    let s₁ := H.exec (failingOracle 0) .awaiting .commUp
    let s₂ := H.exec (failingOracle 0) s₁.2 (.send m₁)
    let s₃ := H.exec (failingOracle 0) s₂.2 (.send m₂)
    recordsOn 0 s₃.2.history = [[4]] ∧ WholeRecords [m₁, m₂] s₃.2.history := by
  intro H m₁ m₂ s₁ s₂ s₃
  have h₁ := (Turns.nil (H := H) Transport.awaiting).exec failingOracle_failsBetweenMessages
    (a := .commUp) trivial
  have h₂ := h₁.exec failingOracle_failsBetweenMessages (a := .send m₁) trivial
  have h₃ := h₂.exec failingOracle_failsBetweenMessages (a := .send m₂) trivial
  have hwhole := @records_whole listMessageBuffer _ _ _ rfl rfl h₃
  exact ⟨by decide +kernel, hwhole⟩

/-- **A message is given up between two of its chunks**, and the record that it has begun ends with
    the message after it. -/
theorem not_records_whole : ∃ done s,
    Turns (@recordHost listMessageBuffer mayFail) .awaiting done s ∧
      (requested done).map OutMessage.bytes = [[1, 2, 3], [4]] ∧
      recordsOn 0 s.history = [[1, 2, 4]] ∧ ¬ WholeRecords (requested done) s.history := by
  let H := @recordHost listMessageBuffer mayFail
  let m₁ := OutMessage.ofBytes 0 [1, 2, 3] (by decide)
  let m₂ := OutMessage.ofBytes 0 [4] (by decide)
  have h₁ := (Turns.nil (H := H) Transport.awaiting).exec (failingOracle_mayFail 1) (a := .commUp)
    trivial
  have h₂ := h₁.exec (failingOracle_mayFail 1) (a := .send m₁) trivial
  have h₃ := h₂.exec (failingOracle_mayFail 1) (a := .send m₂) trivial
  let s₁ := H.exec (failingOracle 1) .awaiting .commUp
  let s₂ := H.exec (failingOracle 1) s₁.2 (.send m₁)
  have hjoined : recordsOn 0 (H.exec (failingOracle 1) s₂.2 (.send m₂)).2.history =
      [[1, 2, 4]] := by
    decide +kernel
  refine ⟨_, _, h₃, rfl, hjoined, ?_⟩
  intro hwhole
  obtain ⟨sent, hsent, hrecords, -⟩ := hwhole 0
  have hmem : [1, 2, 4] ∈ sent.map OutMessage.bytes := by
    rw [← hrecords]
    exact hjoined ▸ List.mem_singleton_self _
  obtain ⟨m, hm, hbytes⟩ := List.mem_map.mp hmem
  have hrequested : m ∈ [m₁, m₂] := List.mem_of_mem_filter (hsent.subset hm)
  rcases List.mem_pair.mp hrequested with rfl | rfl
  · exact absurd hbytes (by decide)
  · exact absurd hbytes (by decide)

end RawrtcDataChannel
