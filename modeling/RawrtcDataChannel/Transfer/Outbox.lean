import RawrtcDataChannel.Reentrant.Uninterrupted
import RawrtcDataChannel.Events

/-!
# The outbox

An abstract view of sending: some messages have been handed over to SCTP completely, others are
waiting in order, and of the first one of these some bytes may have been handed over. `Outbox` is
this view. It does not know about back-pressure, queues or chunks.

What a transport has handed over is read off its history. Every byte is tagged with the send
information it was sent with, apart from the EOR flag, which belongs to the end of a message.
-/

namespace RawrtcDataChannel

open Reentrant

/-! ## Section 1: Messages -/

/-- A byte with the send information and the flags it is sent with. -/
abbrev SentByte := SendInfo × Nat × UInt8

/-- What is passed to `sctp_send`: a message that is not empty, with the EOR flag set in its send
    information, as `send_message` sets it. -/
structure OutMessage where
  buffer : Mbuf
  info : SendInfo
  flags : Nat
  nonempty : buffer.rest ≠ []
  eor : ∃ i, info.sndInfo? = some i ∧ i.eor = true

namespace OutMessage

/-- The bytes of the message. -/
def bytes (m : OutMessage) : Bytes := m.buffer.rest

/-- The bytes of the message, each with the send information of the message. -/
def tagged (m : OutMessage) : List SentByte :=
  m.bytes.map fun b => (m.info, m.flags, b)

/-- The context the message is queued with. -/
def context (m : OutMessage) : SendContext := ⟨m.info, m.flags⟩

variable (m : OutMessage)

theorem length_pos : 0 < m.bytes.length :=
  List.length_pos_iff.mpr m.nonempty

@[simp] theorem length_tagged : m.tagged.length = m.bytes.length := by
  simp [tagged]

theorem setEor_info : m.info.setEor true = m.info := by
  obtain ⟨i, hi, heor⟩ := m.eor
  cases hinfo : m.info with
  | noinfo => rfl
  | other => rfl
  | sndinfo j =>
    rw [hinfo] at hi
    obtain rfl : j = i := by simpa [SendInfo.sndInfo?] using hi
    simp [SendInfo.setEor, ← heor]
  | spa spa =>
    rw [hinfo] at hi
    obtain rfl : spa.sendvSndinfo = i := by simpa [SendInfo.sndInfo?] using hi
    simp [SendInfo.setEor, ← heor]

/-- The send information of a message has an EOR flag. -/
theorem eor_setEor (eor : Bool) : ((m.info.setEor eor).sndInfo?.map SndInfo.eor).getD false = eor := by
  obtain ⟨i, hi, -⟩ := m.eor
  cases hinfo : m.info with
  | noinfo => simp [hinfo, SendInfo.sndInfo?] at hi
  | other => simp [hinfo, SendInfo.sndInfo?] at hi
  | sndinfo j => rfl
  | spa spa => rfl

end OutMessage

@[simp] theorem SendInfo.setEor_setEor (i : SendInfo) (eor eor' : Bool) :
    (i.setEor eor').setEor eor = i.setEor eor := by
  cases i <;> rfl

/-! ## Section 2: What has been handed over -/

/-- The bytes an event says have been handed over. -/
def Event.handedOver : Event → List SentByte
  | .sendv buffer info flags (.ok written) =>
    (buffer.take written).map fun b => (info.setEor true, flags, b)
  | _ => []

/-- The bytes that have been handed over to SCTP, in order. -/
def handedOver (history : List Event) : List SentByte :=
  history.flatMap Event.handedOver

@[simp] theorem handedOver_nil : handedOver [] = [] := rfl

@[simp] theorem handedOver_append (history history' : List Event) :
    handedOver (history ++ history') = handedOver history ++ handedOver history' := by
  simp [handedOver]

@[simp] theorem handedOver_cons (e : Event) (history : List Event) :
    handedOver (e :: history) = e.handedOver ++ handedOver history := by
  simp [handedOver]

/-- If the event hands something over: whether this is the end of a message. -/
def Event.endsMessage? : Event → Option Bool
  | .sendv buffer info _ (.ok written) =>
    if written = 0 then none
    else some ((info.sndInfo?.map SndInfo.eor).getD false && decide (buffer.length ≤ written))
  | _ => none

/-- The last byte that has been handed over is not the last one of its message. -/
def unfinished (history : List Event) : Prop :=
  (history.filterMap Event.endsMessage?).getLast? = some false

instance (history : List Event) : Decidable (unfinished history) :=
  inferInstanceAs (Decidable (_ = _))

/-! ## Section 3: The outbox -/

/-- Messages on their way. -/
structure Outbox where
  /-- The messages that have been handed over. -/
  sent : List OutMessage
  /-- The messages that are waiting. -/
  waiting : List OutMessage
  /-- How many bytes of the first waiting message have been handed over. -/
  offset : Nat
  offset_lt : offset = 0 ∨ ∃ m ms, waiting = m :: ms ∧ offset < m.bytes.length

namespace Outbox

variable (b : Outbox)

/-- All messages, in order. -/
def messages : List OutMessage := b.sent ++ b.waiting

/-- The bytes that have been handed over, in order. -/
def handedOver : List SentByte :=
  b.sent.flatMap OutMessage.tagged ++ (b.waiting.flatMap OutMessage.tagged).take b.offset

/-- What has been handed over is the beginning of all messages. -/
theorem handedOver_prefix_messages : b.handedOver <+: b.messages.flatMap OutMessage.tagged := by
  unfold handedOver messages
  rw [List.flatMap_append]
  exact (List.prefix_append_right_inj _).mpr (List.take_prefix _ _)

/-- If nothing waits, everything has been handed over. -/
theorem handedOver_of_nil (h : b.waiting = []) :
    b.handedOver = b.messages.flatMap OutMessage.tagged := by
  simp [handedOver, messages, h]

/-- The empty outbox. -/
def empty : Outbox := ⟨[], [], 0, .inl rfl⟩

/-- Another message waits. -/
def push (m : OutMessage) : Outbox where
  sent := b.sent
  waiting := b.waiting ++ [m]
  offset := b.offset
  offset_lt := by
    rcases b.offset_lt with h | ⟨m', ms, hw, h⟩
    · exact .inl h
    · exact .inr ⟨m', ms ++ [m], by simp [hw], h⟩

@[simp] theorem messages_push (m : OutMessage) : (b.push m).messages = b.messages ++ [m] := by
  simp [push, messages]

theorem handedOver_push (m : OutMessage) : (b.push m).handedOver = b.handedOver := by
  unfold handedOver push
  simp only [List.flatMap_append]
  rcases b.offset_lt with h | ⟨m', ms, hw, h⟩
  · simp [h]
  · rw [List.take_append_of_le_length]
    simp only [hw, List.flatMap_cons, List.length_append, OutMessage.length_tagged]
    omega

end Outbox

end RawrtcDataChannel
