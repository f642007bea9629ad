import RawrtcDataChannel.Transfer.Outbox

/-!
# Chunks

How one message is handed over. `Chunks` describes the calls of `usrsctp_sendv` that a message
gives rise to: each offers the bytes that have not been accepted yet, up to the chunk size, and
carries the EOR flag if they reach the end of the message. `Framed` says of a whole history that
it consists of such calls, message after message.
-/

namespace RawrtcDataChannel

open Reentrant

/-! ## Section 1: The chunks of a message -/

/-- How many bytes have been accepted. -/
def acceptedBytes : Except Failure Nat → Nat
  | .ok written => written
  | .error _ => 0

namespace OutMessage

/-- What is offered to SCTP when `offset` bytes have been accepted. -/
def chunk (m : OutMessage) (chunkSize offset : Nat) : Bytes :=
  (m.bytes.drop offset).take chunkSize

/-- The call of `usrsctp_sendv` for a chunk: the EOR flag says whether the chunk reaches the end of
    the message. -/
def sendChunk (m : OutMessage) (chunkSize offset : Nat) (written : Except Failure Nat) : Event :=
  .sendv (m.chunk chunkSize offset)
    (m.info.setEor (decide (offset + (m.chunk chunkSize offset).length = m.bytes.length))) m.flags
    written

variable (m : OutMessage) (chunkSize : Nat)

theorem length_chunk_le (offset : Nat) :
    (m.chunk chunkSize offset).length ≤ m.bytes.length - offset := by
  simp only [chunk, List.length_take, List.length_drop]
  exact min_le_right _ _

theorem handedOver_sendChunk {offset : Nat} {written : Except Failure Nat}
    (h : acceptedBytes written ≤ (m.chunk chunkSize offset).length) :
    (m.sendChunk chunkSize offset written).handedOver =
      (m.tagged.drop offset).take (acceptedBytes written) := by
  cases written with
  | error error => simp [sendChunk, Event.handedOver, acceptedBytes]
  | ok k =>
    simp only [acceptedBytes] at h
    have hk : min k chunkSize = k := by
      apply min_eq_left
      simp only [chunk, List.length_take] at h
      omega
    simp only [sendChunk, Event.handedOver, acceptedBytes, chunk, SendInfo.setEor_setEor,
      m.setEor_info, tagged, List.take_take, hk, List.map_take, List.map_drop]

end OutMessage

/-- `Chunks chunkSize m offset es offset'`: the calls `es` hand over the bytes of `m` from `offset`
    to `offset'`. -/
inductive Chunks (chunkSize : Nat) (m : OutMessage) : Nat → List Event → Nat → Prop where
  | nil (offset : Nat) : Chunks chunkSize m offset [] offset
  | cons {offset offset' : Nat} {es : List Event} (written : Except Failure Nat) :
      offset < m.bytes.length → acceptedBytes written ≤ (m.chunk chunkSize offset).length →
      Chunks chunkSize m (offset + acceptedBytes written) es offset' →
      Chunks chunkSize m offset (m.sendChunk chunkSize offset written :: es) offset'

namespace Chunks

variable {chunkSize : Nat} {m : OutMessage} {offset offset' : Nat} {es : List Event}

theorem le (h : Chunks chunkSize m offset es offset') : offset ≤ offset' := by
  induction h with
  | nil => exact le_refl _
  | cons written _ _ _ ih => omega

/-- What the chunks hand over. -/
theorem handedOver (h : Chunks chunkSize m offset es offset') :
    handedOver es = (m.tagged.drop offset).take (offset' - offset) := by
  induction h with
  | nil => simp
  | @cons offset offset' es written hlt hwritten hrest ih =>
    have hle := hrest.le
    have hsplit : offset' - offset =
        acceptedBytes written + (offset' - (offset + acceptedBytes written)) := by omega
    rw [handedOver_cons, m.handedOver_sendChunk chunkSize hwritten, ih, hsplit, List.take_add,
      List.drop_drop]

/-- Every call of the chunks is one for a chunk, at the offset that has been reached. -/
theorem getElem? (h : Chunks chunkSize m offset es offset') {i : Nat} {e : Event}
    (he : es[i]? = some e) : ∃ o written, e = m.sendChunk chunkSize o written ∧
      offset ≤ o ∧ o < m.bytes.length ∧
      RawrtcDataChannel.handedOver (es.take i) = (m.tagged.drop offset).take (o - offset) := by
  induction h generalizing i with
  | nil => simp at he
  | @cons offset offset' es written hlt hwritten hrest ih =>
    cases i with
    | zero =>
      obtain rfl : m.sendChunk chunkSize offset written = e := by simpa using he
      exact ⟨offset, written, rfl, le_refl _, hlt, by simp⟩
    | succ i =>
      obtain ⟨o, written', hev, hle, ho, htaken⟩ := ih (by simpa using he)
      refine ⟨o, written', hev, by omega, ho, ?_⟩
      have hsplit : o - offset = acceptedBytes written + (o - (offset + acceptedBytes written)) := by
        omega
      rw [List.take_succ_cons, handedOver_cons, m.handedOver_sendChunk chunkSize hwritten, htaken,
        hsplit, List.take_add, List.drop_drop]

/-- Chunks that hand nothing over end no message. -/
theorem filterMap_endsMessage?_nil (h : Chunks chunkSize m offset es offset') (heq : offset = offset') :
    es.filterMap Event.endsMessage? = [] := by
  induction h with
  | nil => rfl
  | @cons offset offset' es written hlt hwritten hrest ih =>
    have hle := hrest.le
    have hnone : (m.sendChunk chunkSize offset written).endsMessage? = none := by
      cases written with
      | error error => rfl
      | ok k =>
        obtain rfl : k = 0 := by
          simp only [acceptedBytes] at hle
          omega
        rfl
    rw [List.filterMap_cons_none hnone]
    exact ih (by omega)

/-- A message that has been handed over in part leaves the history unfinished. -/
theorem unfinished (h : Chunks chunkSize m offset es offset') (hlt : offset < offset')
    (hend : offset' < m.bytes.length) (history : List Event) :
    unfinished (history ++ es) := by
  suffices hes : (es.filterMap Event.endsMessage?).getLast? = some false by
    unfold RawrtcDataChannel.unfinished
    rw [List.filterMap_append, List.getLast?_append, hes]
    rfl
  induction h with
  | nil => omega
  | @cons offset offset' es written hoffset hwritten hrest ih =>
    rw [List.filterMap_cons]
    cases written with
    | error error => exact ih hlt hend
    | ok k =>
      simp only [acceptedBytes] at hrest hwritten ih
      have hle := hrest.le
      by_cases hk : k = 0
      · subst hk
        exact ih hlt hend
      -- the chunk does not reach the end, or it has not been accepted as a whole
      have hends : (m.sendChunk chunkSize offset (.ok k)).endsMessage? = some false := by
        have hnot : ¬ (offset + (m.chunk chunkSize offset).length = m.bytes.length ∧
            (m.chunk chunkSize offset).length ≤ k) := by omega
        simp only [OutMessage.sendChunk, Event.endsMessage?, if_neg hk, m.eor_setEor,
          ← Bool.decide_and, hnot, decide_false]
      rw [hends]
      by_cases hmore : offset + k = offset'
      · rw [hrest.filterMap_endsMessage?_nil hmore]
        rfl
      · rw [List.getLast?_cons, ih (by omega) hend]
        rfl

end Chunks

/-! ## Section 2: Framed histories -/

/-- Every call of `usrsctp_sendv` offers the next bytes of a requested message, after all messages
    before it, in chunks of at most `chunkSize` bytes, and with the EOR flag if and only if they
    reach the end of the message. -/
def Framed (chunkSize : Nat) (messages requested : List OutMessage) (history : List Event) : Prop :=
  ∀ i buffer info flags written, history[i]? = some (.sendv buffer info flags written) →
    ∃ earlier m offset, earlier <+: messages ∧ m ∈ requested ∧ offset < m.bytes.length ∧
      handedOver (history.take i) = earlier.flatMap OutMessage.tagged ++ m.tagged.take offset ∧
      buffer = (m.bytes.drop offset).take chunkSize ∧ flags = m.flags ∧
      info = m.info.setEor (decide (offset + buffer.length = m.bytes.length))

namespace Framed

variable {chunkSize : Nat} {messages requested : List OutMessage} {history : List Event}

theorem nil : Framed chunkSize messages requested [] := by
  intro i buffer info flags written h
  simp at h

/-- More messages frame as well. -/
theorem mono (h : Framed chunkSize messages requested history) {messages' requested' : List OutMessage}
    (hmessages : messages <+: messages') (hrequested : requested ⊆ requested') :
    Framed chunkSize messages' requested' history := by
  intro i buffer info flags written hi
  obtain ⟨earlier, m, offset, hearlier, hm, hrest⟩ := h i buffer info flags written hi
  exact ⟨earlier, m, offset, hearlier.trans hmessages, hrequested hm, hrest⟩

/-- Events that send nothing do not matter. -/
theorem append_other (h : Framed chunkSize messages requested history) {es : List Event}
    (hes : ∀ e ∈ es, ∀ buffer info flags written, e ≠ .sendv buffer info flags written) :
    Framed chunkSize messages requested (history ++ es) := by
  intro i buffer info flags written hi
  by_cases hlt : i < history.length
  · rw [List.getElem?_append_left hlt] at hi
    rw [List.take_append_of_le_length hlt.le]
    exact h i buffer info flags written hi
  · rw [List.getElem?_append_right (not_lt.mp hlt)] at hi
    exact absurd rfl (hes _ (List.mem_of_getElem? hi) buffer info flags written)

/-- Chunks of a message follow what has been handed over of it. -/
theorem append_chunks (h : Framed chunkSize messages requested history) {earlier : List OutMessage}
    {m : OutMessage} {offset offset' : Nat} {es : List Event}
    (hes : Chunks chunkSize m offset es offset') (hearlier : earlier <+: messages)
    (hm : m ∈ requested) (hpast : handedOver history =
      earlier.flatMap OutMessage.tagged ++ m.tagged.take offset) :
    Framed chunkSize messages requested (history ++ es) := by
  intro i buffer info flags written hi
  by_cases hlt : i < history.length
  · rw [List.getElem?_append_left hlt] at hi
    rw [List.take_append_of_le_length hlt.le]
    exact h i buffer info flags written hi
  · have hle : history.length ≤ i := not_lt.mp hlt
    rw [List.getElem?_append_right hle] at hi
    obtain ⟨o, written', hev, hoffset, ho, htaken⟩ := hes.getElem? hi
    obtain ⟨rfl, rfl, rfl, rfl⟩ := Event.sendv.inj hev
    refine ⟨earlier, m, o, hearlier, hm, ho, ?_, rfl, rfl, rfl⟩
    have hsplit : o = offset + (o - offset) := by omega
    rw [List.take_append, List.take_of_length_le hle, handedOver_append, hpast, htaken,
      List.append_assoc, ← List.take_add, ← hsplit]

end Framed

end RawrtcDataChannel
