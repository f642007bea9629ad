import RawrtcDataChannel.Transfer.Frames

/-!
# What usrsctp has been given

usrsctp sends messages and requests for resets in the order in which it has been given them. A
message is complete once the end of a chunk with the EOR flag has been accepted, so what has been
given to usrsctp can be read off the history: this is the `Wire`.

Whatever has been sent has either been given to usrsctp or waits in the queue, after everything that
has been sent before. `Transport.Passes` says so of a list of items. Sending a message adds it at
the end, and working off the queue changes nothing.
-/

namespace RawrtcDataChannel

open Reentrant

/-! ## Section 1: The wire -/

/-- A message as a whole with the information it has been sent with, or the request to reset a
    stream. -/
inductive WireItem where
  | message (info : SendInfo) (flags : Nat) (bytes : Bytes)
  | reset (sid : Nat)
deriving DecidableEq

/-- What usrsctp has been given: items, and then a part of a message. -/
structure Wire where
  items : List WireItem := []
  part : Bytes := []

namespace Wire

/-- One more event. -/
def record (wire : Wire) : Event → Wire
  | .sendv buffer info flags (.ok written) =>
    if (info.sndInfo?.map SndInfo.eor).getD false && decide (buffer.length ≤ written) then
      { items := wire.items ++
          [.message (info.setEor true) flags (wire.part ++ buffer.take written)] }
    else { wire with part := wire.part ++ buffer.take written }
  | .resetStreams _ sid none => { wire with items := wire.items ++ [.reset sid] }
  | _ => wire

/-- Everything that a history tells. -/
def ofHistory (history : List Event) : Wire :=
  history.foldl record {}

end Wire

/-- usrsctp may have been given something. -/
def Event.isGiving : Event → Bool
  | .sendv _ _ _ _ | .resetStreams _ _ none => true
  | _ => false

theorem Wire.record_of_not_isGiving (wire : Wire) {e : Event} (h : e.isGiving = false) :
    wire.record e = wire := by
  cases e with
  | sendv => cases h
  | resetStreams c sid error =>
    cases error with
    | none => cases h
    | some error => rfl
  | _ => rfl

/-- What usrsctp has been given. -/
def Transport.wire (t : Transport) : Wire :=
  .ofHistory t.history

@[simp] theorem Transport.wire_log (t : Transport) (e : Event) :
    (t.log e).wire = t.wire.record e := by
  simp [wire, Wire.ofHistory, log]

/-- The message as a whole. -/
def OutMessage.wireItem (m : OutMessage) : WireItem :=
  .message m.info m.flags m.bytes

namespace OutMessage

variable (m : OutMessage) (chunkSize : Nat)

/-- A chunk continues what has been given of the message. It is the end of the message if it is
    accepted up to there. -/
theorem record_sendChunk {offset : Nat} {written : Except Failure Nat} (items : List WireItem)
    (h : acceptedBytes written ≤ (m.chunk chunkSize offset).length)
    (hoffset : offset < m.bytes.length) :
    Wire.record ⟨items, m.bytes.take offset⟩ (m.sendChunk chunkSize offset written) =
      if offset + acceptedBytes written < m.bytes.length then
        ⟨items, m.bytes.take (offset + acceptedBytes written)⟩
      else ⟨items ++ [m.wireItem], []⟩ := by
  cases written with
  | error error => simp [sendChunk, Wire.record, acceptedBytes, hoffset]
  | ok k =>
    replace h : k ≤ (m.chunk chunkSize offset).length := h
    change _ = if offset + k < m.bytes.length then (⟨items, m.bytes.take (offset + k)⟩ : Wire)
      else ⟨items ++ [m.wireItem], []⟩
    have hle := m.length_chunk_le chunkSize offset
    have hk : min k chunkSize = k := by
      apply min_eq_left
      simp only [chunk, List.length_take] at h
      omega
    -- what has been accepted is the message up to the new offset
    have hpart : m.bytes.take offset ++ (m.chunk chunkSize offset).take k =
        m.bytes.take (offset + k) := by
      rw [chunk, List.take_take, hk, ← List.take_add]
    simp only [sendChunk, Wire.record, m.eor_setEor, hpart, SendInfo.setEor_setEor, m.setEor_info,
      ← Bool.decide_and, decide_eq_true_eq]
    -- the chunk ends the message if it reaches its end and is accepted whole
    by_cases hmore : offset + k < m.bytes.length
    · have hnot : ¬ (offset + (m.chunk chunkSize offset).length = m.bytes.length ∧
          (m.chunk chunkSize offset).length ≤ k) := by omega
      rw [if_neg hnot, if_pos hmore]
    · have hend : offset + (m.chunk chunkSize offset).length = m.bytes.length ∧
          (m.chunk chunkSize offset).length ≤ k := by omega
      rw [if_pos hend, if_neg hmore, List.take_of_length_le (not_lt.mp hmore)]
      rfl

end OutMessage

/-- The chunks of a message put it on the wire. -/
theorem Chunks.wire {chunkSize : Nat} {m : OutMessage} {offset offset' : Nat} {es : List Event}
    (h : Chunks chunkSize m offset es offset') (hoffset : offset < m.bytes.length)
    (items : List WireItem) : es.foldl Wire.record ⟨items, m.bytes.take offset⟩ =
      if offset' < m.bytes.length then ⟨items, m.bytes.take offset'⟩
      else ⟨items ++ [m.wireItem], []⟩ := by
  induction h with
  | nil => rw [if_pos hoffset, List.foldl_nil]
  | @cons offset offset' es written _ hwritten hrest ih =>
    rw [List.foldl_cons, m.record_sendChunk chunkSize items hwritten hoffset]
    by_cases hmore : offset + acceptedBytes written < m.bytes.length
    · rw [if_pos hmore]
      exact ih hmore
    · -- nothing comes after the end of the message
      rw [if_neg hmore]
      cases hrest with
      | nil => rw [if_neg hmore, List.foldl_nil]
      | cons _ hlt => exact absurd hlt hmore

/-! ## Section 2: The wire and the queue -/

/-- The items are what usrsctp has been given, and then what waits. Of the first message that waits
    a part may have been given to usrsctp. -/
def InLine (wire : Wire) (queue : List BufferedMessage) (items : List WireItem) : Prop :=
  ∃ offset ms, Matches offset ms queue ∧ wire.part = (ms.flatMap OutMessage.bytes).take offset ∧
    items = wire.items ++ ms.map OutMessage.wireItem

/-- The items have been sent: usrsctp has been given some of them, and the others wait in the
    queue. -/
def Transport.Passes (t : Transport) (items : List WireItem) : Prop :=
  InLine t.wire t.bufferedMessagesOutgoing items

/-- Not more than the bytes that wait have been given to usrsctp already. -/
theorem Matches.offset_le {offset : Nat} {ms : List OutMessage} {queue : List BufferedMessage}
    (h : Matches offset ms queue) : offset ≤ (ms.flatMap OutMessage.bytes).length := by
  cases ms with
  | nil =>
    cases queue with
    | nil => exact h.le
    | cons q queue => exact h.elim
  | cons m ms =>
    cases queue with
    | nil => exact h.elim
    | cons q queue =>
      rw [List.flatMap_cons, List.length_append]
      exact Nat.le_add_right_of_le h.1.le

namespace InLine

variable {wire : Wire} {queue : List BufferedMessage} {items : List WireItem}
  {offset offset' : Nat} {ms : List OutMessage} {m : OutMessage} {es : List Event} {chunkSize : Nat}

/-- With an empty queue, usrsctp has been given everything. -/
theorem nil_iff : InLine wire [] items ↔ wire = ⟨items, []⟩ := by
  constructor
  · rintro ⟨offset, ms, hmatches, hpart, rfl⟩
    obtain ⟨rfl, rfl⟩ := hmatches.nil_iff
    obtain ⟨given, part⟩ := wire
    obtain rfl : part = [] := hpart
    simp
  · rintro rfl
    exact ⟨0, [], rfl, rfl, by simp⟩

/-- Another part of the first message that waits is given to usrsctp, and the rest of it still has
    to wait. -/
theorem waits (hpart : wire.part = ((m :: ms).flatMap OutMessage.bytes).take offset)
    (hes : Chunks chunkSize m offset es offset') (hmore : offset' < m.bytes.length)
    (hqueue : Matches offset' (m :: ms) queue) :
    InLine (es.foldl Wire.record wire) queue
      (wire.items ++ (m :: ms).map OutMessage.wireItem) := by
  have hoffset : offset < m.bytes.length := Nat.lt_of_le_of_lt hes.le hmore
  obtain ⟨given, part⟩ := wire
  obtain rfl : part = m.bytes.take offset := by
    rw [← List.take_append_of_le_length hoffset.le]
    exact hpart
  rw [hes.wire hoffset, if_pos hmore]
  refine ⟨offset', m :: ms, hqueue, ?_, rfl⟩
  exact (List.take_append_of_le_length hmore.le).symm

/-- The rest of the first message that waits is given to usrsctp. -/
theorem ends (hpart : wire.part = ((m :: ms).flatMap OutMessage.bytes).take offset)
    (hes : Chunks chunkSize m offset es m.bytes.length) (hoffset : offset < m.bytes.length)
    (hqueue : Matches 0 ms queue) :
    InLine (es.foldl Wire.record wire) queue
      (wire.items ++ (m :: ms).map OutMessage.wireItem) := by
  obtain ⟨given, part⟩ := wire
  obtain rfl : part = m.bytes.take offset := by
    rw [← List.take_append_of_le_length hoffset.le]
    exact hpart
  rw [hes.wire hoffset, if_neg (lt_irrefl _)]
  exact ⟨0, ms, hqueue, rfl, by simp⟩

/-- Another message has to wait. -/
theorem push (h : InLine wire queue items) {buffer : Mbuf} (hrest : buffer.rest = m.bytes) :
    InLine wire (queue ++ [⟨buffer, m.context⟩]) (items ++ [m.wireItem]) := by
  obtain ⟨offset, ms, hmatches, hpart, rfl⟩ := h
  refine ⟨offset, ms ++ [m], hmatches.append hrest, ?_, by simp⟩
  rw [hpart, List.flatMap_append, List.take_append_of_le_length hmatches.offset_le]

end InLine

section Routines

variable {answers : (o : Op) → Transport → o.Reply → Prop}

theorem Transport.wire_logAll (t : Transport) (es : List Event) :
    (t.logAll es).wire = es.foldl Wire.record t.wire := by
  simp [Transport.wire, Wire.ofHistory, logAll]

/-- Events by which usrsctp is not given anything do not matter. -/
theorem Transport.Passes.log {t : Transport} {items : List WireItem} (h : t.Passes items) {e : Event}
    (he : e.isGiving = false) : (t.log e).Passes items := by
  rw [Transport.Passes, t.wire_log, Wire.record_of_not_isGiving _ he]
  exact h

/-- A request to reset a stream comes after everything that has been sent before, if nothing has to
    wait. -/
theorem Transport.Passes.reset {t : Transport} {items : List WireItem} (h : t.Passes items)
    (hidle : t.bufferedMessagesOutgoing = []) (c : ChannelId) (sid : Nat) :
    (t.log (.resetStreams c sid none)).Passes (items ++ [.reset sid]) := by
  have hidle' : (t.log (.resetStreams c sid none)).bufferedMessagesOutgoing = [] := hidle
  rw [Transport.Passes, hidle, InLine.nil_iff] at h
  rw [Transport.Passes, hidle', InLine.nil_iff, t.wire_log, h]
  rfl

/-! ## Section 3: The queue is worked off -/

section Queue

variable [MessageBuffer]

/-- Clearing the queue of a connected transport gives what waits to usrsctp, in its order. -/
theorem clear_inLine (haccepts : AcceptsAll answers) (queue : List BufferedMessage)
    {items : List WireItem} (s : Transport) (hconnected : s.state = .connected)
    (h : InLine s.wire queue items) :
    ((MessageBuffer.clear sctpSendDeferredMessage queue).run s).Always answers fun r s' =>
      InLine s'.wire r.2 items := by
  induction queue generalizing s with
  | nil =>
    rw [MessageBuffer.clear_nil]
    exact h
  | cons q queue ih =>
    -- the first message of the queue, of which usrsctp may have a part already
    obtain ⟨offset, _ | ⟨m, ms⟩, hmatches, hpart, rfl⟩ := h
    · exact hmatches.elim
    obtain ⟨hoffset, hrest, hcontext, hqueue⟩ := hmatches
    obtain ⟨i, hi, -⟩ := m.eor
    have hinfo : q.context.info = m.info := by
      rw [hcontext]
      rfl
    have hflags : q.context.flags = m.flags := by
      rw [hcontext]
      rfl
    rw [MessageBuffer.clear_cons]
    simp only [sctpSendDeferredMessage, hinfo, hi, hflags, Routine.run_bind, Prog.always_bind]
    apply Prog.Always.mono (sctpTransportSend_always haccepts m q.buffer s offset hconnected hrest
      hoffset)
    intro r s' hr
    obtain ⟨es, offset', rfl, hchunks, hrest', hinfo', ⟨hcode, rfl⟩ | ⟨hcode, hmore⟩⟩ := hr
    · -- go on with the next message
      have hcontinue : r.1 ≠ .tryAgainLater := by
        rw [hcode]
        decide
      simp only [Routine.run_pure, Prog.always_ret, ne_eq, hcontinue, not_false_eq_true,
        decide_true, if_true]
      apply ih (s.logAll es) hconnected
      rw [s.wire_logAll]
      exact .ends hpart hchunks hoffset hqueue
    · -- the rest of the message has to wait
      simp only [Routine.run_pure, Prog.always_ret, hcode, ne_eq, not_true, decide_false,
        Bool.false_eq_true, if_false]
      rw [s.wire_logAll]
      refine .waits hpart hchunks hmore ⟨hmore, hrest', ?_, hqueue⟩
      unfold OutMessage.context
      rw [← hinfo']

/-- `sctp_send_deferred_messages` on a connected transport. -/
theorem sctpSendDeferredMessages_passes (haccepts : AcceptsAll answers) (s : Transport)
    (hconnected : s.state = .connected) :
    (sctpSendDeferredMessages.run s).Always answers fun _ s' =>
      ∀ items, s.Passes items → s'.Passes items := by
  apply Prog.always_iff.mpr
  intro r s' hout items hitems
  have hpasses : (sctpSendDeferredMessages.run s).Always answers fun _ s' => s'.Passes items := by
    simp only [sctpSendDeferredMessages, Routine.run_bind, Routine.run_get, Prog.bind,
      Prog.always_bind]
    exact Prog.Always.mono (clear_inLine haccepts _ s hconnected hitems) fun _ _ h => h
  exact Prog.always_iff.mp hpasses r s' hout

/-! ## Section 4: A message is sent -/

omit [MessageBuffer] in
/-- A message that `sctp_send` accepts comes after everything that has been sent before. -/
theorem HandsOver.passes {m : OutMessage} {s s' : Transport} (h : HandsOver m s .success s')
    {items : List WireItem} (hitems : s.Passes items) : s'.Passes (items ++ [m.wireItem]) := by
  obtain ⟨queue, es, offset, rfl, hchunks, hdirect, hqueue⟩ := h
  have hwire : (s.afterSends false queue es).wire = es.foldl Wire.record s.wire :=
    s.wire_logAll es
  change InLine (s.afterSends false queue es).wire queue _
  rw [hwire]
  rcases hdirect with rfl | ⟨-, hidle⟩
  · -- nothing has been given to usrsctp yet
    cases hchunks
    rcases hqueue with ⟨-, hend, -⟩ | ⟨-, ⟨-, buffer, hrest, rfl⟩ | ⟨hfailed, -⟩⟩
    · exact absurd hend m.length_pos.ne
    · exact InLine.push hitems hrest
    · exact absurd rfl hfailed
  · -- no other message waits
    rw [Transport.Passes, hidle, InLine.nil_iff] at hitems
    have hpart : s.wire.part = ([m].flatMap OutMessage.bytes).take 0 := by rw [hitems]; rfl
    have hgiven : s.wire.items = items := by rw [hitems]
    rw [hidle] at hqueue
    rw [← hgiven]
    rcases hqueue with ⟨-, rfl, rfl⟩ | ⟨hmore, ⟨-, buffer, hrest, rfl⟩ | ⟨hfailed, -⟩⟩
    · exact .ends hpart hchunks m.length_pos rfl
    · exact .waits hpart hchunks hmore ⟨hmore, hrest, rfl, rfl⟩
    · exact absurd rfl hfailed

/-- A message is passed to SCTP, after everything that has been sent before. -/
structure Passed (info : SendvSpa) (bytes : Bytes) (s s' : Transport) : Prop where
  sends : SendsOnly (s.log (.sendMessage info bytes)) s'
  passes : ∀ ⦃items⦄, s.Passes items → s'.Passes (items ++ [.message (.spa info) 0 bytes])

/-- `sctp_send` of the message that `send_message` has been told of. -/
theorem sctpSend_passed (hmemory : AmpleMemory answers) (hcontexts : AmpleContexts answers)
    (haccepts : AcceptsAll answers) {buffer : Mbuf} (hbuffer : buffer.rest ≠ []) {spa : SendvSpa}
    (heor : spa.sendvSndinfo.eor = true) (s : Transport) :
    ((sctpSend buffer (.spa spa) 0).run (s.log (.sendMessage spa buffer.rest))).Always answers
      fun r s' => r = .success ∧ Passed spa buffer.rest s s' := by
  let m : OutMessage := ⟨buffer, .spa spa, 0, hbuffer, _, rfl, heor⟩
  have hall := ((sctpSend_success hmemory hcontexts haccepts m
    (s.log (.sendMessage spa buffer.rest))).and (sctpSend_within buffer (.spa spa) 0 _).always).and
    (sctpSend_hands haccepts.refusesWith rfl hcontexts m _)
  apply Prog.Always.mono hall
  intro r s' h
  obtain ⟨⟨rfl, hsends⟩, hhands⟩ := h
  exact ⟨rfl, hsends, fun items hitems => hhands.passes (hitems.log rfl)⟩

/-- `send_message` for a message of a data channel. -/
theorem sendUserMessage_always (hmemory : AmpleMemory answers)
    (hcontexts : AmpleContexts answers) (haccepts : AcceptsAll answers) (c : ChannelId)
    (context : Context) {buffer : Mbuf} (hbuffer : buffer.rest ≠ []) {ppid : Nat}
    (hppid : ppid ≠ ppidDcep) (s : Transport) :
    ((sendMessage (some c) context buffer ppid).run s).Always answers fun r s' =>
      r = .success ∧
        Passed (userSendInfo (s.dataChannels c) context ppid) buffer.rest s s' := by
  simp only [sendMessage, if_neg hppid, Routine.run_bind, Routine.run_get, run_logEvent, Prog.bind]
  exact sctpSend_passed hmemory hcontexts haccepts hbuffer rfl s

/-- `send_message` for a DCEP message. -/
theorem sendDcepMessage_always (hmemory : AmpleMemory answers)
    (hcontexts : AmpleContexts answers) (haccepts : AcceptsAll answers) (context : Context)
    {buffer : Mbuf} (hbuffer : buffer.rest ≠ []) (s : Transport) :
    ((sendMessage none context buffer ppidDcep).run s).Always answers fun r s' =>
      r = .success ∧ Passed (dcepSendInfo context) buffer.rest s s' := by
  simp only [sendMessage, if_true, Routine.run_bind, Routine.run_get, run_logEvent, Prog.bind]
  exact sctpSend_passed hmemory hcontexts haccepts hbuffer rfl s

end Queue

end Routines

end RawrtcDataChannel
