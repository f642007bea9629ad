import RawrtcDataChannel.Transfer.Outgoing
import RawrtcDataChannel.Api
import RawrtcDataChannel.Reentrant.Machine

/-!
# Messages are sent in order

Runs in which messages are sent, the association comes up and write events arrive, with any
back-pressure. The outbox of the transport is followed through such a run: what has been handed
over is always the beginning of what `sctp_send` accepted.

The code does not keep to this in one case. `write_event_handler` works off the queue in any
state, but only a connected transport can send, and what cannot be sent is given up. So a message
that waits for the connection is lost if a write event comes first.
-/

namespace RawrtcDataChannel

open Reentrant

/-! ## Section 1: Routines that send nothing -/

/-- Nothing has been sent, and nothing has been put into the queue or taken out of it. -/
structure Unsending (s s' : Transport) : Prop where
  queue : s'.bufferedMessagesOutgoing = s.bufferedMessagesOutgoing
  usrsctpChunkSize : s'.usrsctpChunkSize = s.usrsctpChunkSize
  history : ∃ es, s'.history = s.history ++ es ∧
    ∀ e ∈ es, ∀ buffer info flags written, e ≠ .sendv buffer info flags written

namespace Unsending

variable {s s' s'' : Transport}

theorem refl (s : Transport) : Unsending s s :=
  ⟨rfl, rfl, [], by simp, by simp⟩

theorem trans (h : Unsending s s') (h' : Unsending s' s'') : Unsending s s'' := by
  obtain ⟨es, hes, hnone⟩ := h.history
  obtain ⟨es', hes', hnone'⟩ := h'.history
  refine ⟨h'.queue.trans h.queue, h'.usrsctpChunkSize.trans h.usrsctpChunkSize, es ++ es', ?_, ?_⟩
  · rw [hes', hes, List.append_assoc]
  · intro e he
    rcases List.mem_append.mp he with he | he
    · exact hnone e he
    · exact hnone' e he

/-- An event that is no call of `usrsctp_sendv` is added to the history. -/
theorem log (s : Transport) {e : Event}
    (he : ∀ buffer info flags written, e ≠ .sendv buffer info flags written) :
    Unsending s (s.log e) := by
  refine ⟨rfl, rfl, [e], rfl, ?_⟩
  intro e' he'
  obtain rfl := List.mem_singleton.mp he'
  exact he

/-- The outbox stays as it is. -/
theorem represents (h : Unsending s s') {requested : List OutMessage} {b : Outbox}
    (hs : Represents requested b s.bufferedMessagesOutgoing s) :
    Represents requested b s'.bufferedMessagesOutgoing s' := by
  obtain ⟨es, hes, hnone⟩ := h.history
  have hnothing : handedOver es = [] := by
    unfold handedOver
    rw [List.flatMap_eq_nil_iff]
    intro e he
    cases e with
    | sendv buffer info flags written => exact absurd rfl (hnone _ he buffer info flags written)
    | _ => rfl
  refine ⟨?_, ?_, ?_⟩
  · rw [hes, handedOver_append, hnothing, List.append_nil]
    exact hs.handedOver
  · rw [h.queue]
    exact hs.queue
  · rw [hes, h.usrsctpChunkSize]
    exact hs.framed.append_other hnone

end Unsending

section Quiet

variable {answers : (o : Op) → Transport → o.Reply → Prop} {s₀ s : Transport}

theorem callHandler_unsending (h : Unsending s₀ s) (hd : Handler) :
    ((callHandler hd).run s).Always answers fun _ s' => Unsending s₀ s' := by
  intro r hr
  exact h.trans (.log s (by simp))

theorem dataChannelSetState_unsending (h : Unsending s₀ s) (c : ChannelId)
    (state : DataChannelState) :
    ((dataChannelSetState c state).run s).Always answers fun _ s' => Unsending s₀ s' := by
  have hset : Unsending s₀ ((s.modifyChannel c ({ · with state := state })).log
      (.channelState c state)) := by
    apply Unsending.trans h
    exact ⟨rfl, rfl, [_], rfl, by simp⟩
  unfold dataChannelSetState
  cases state with
  | opened | closed =>
    simp only [Routine.run_bind, Routine.run_modify, run_logEvent, Routine.run_get, Prog.bind,
      Routine.run_ite]
    split
    · exact callHandler_unsending hset _
    · exact hset
  | connecting | closing => exact hset

theorem setDataChannelStatesFrom_unsending (h : Unsending s₀ s) (toState : DataChannelState)
    (fromState : Option DataChannelState) (i left : Nat) :
    ((setDataChannelStatesFrom toState fromState i left).run s).Always answers
      fun _ s' => Unsending s₀ s' := by
  induction left generalizing i s with
  | zero => exact h
  | succ left ih =>
    simp only [setDataChannelStatesFrom, Routine.run_bind, Routine.run_get, Prog.bind]
    cases s.channels i with
    | none => exact ih h (i + 1)
    | some c =>
      simp only [Routine.run_ite]
      split
      · simp only [Routine.run_bind, Prog.always_bind]
        apply Prog.Always.mono (dataChannelSetState_unsending h c toState)
        intro _ s' h'
        exact ih h' (i + 1)
      · exact ih h (i + 1)

end Quiet

/-! ## Section 2: The association comes up, and write events -/

section Events

variable [MessageBuffer] {requested : List OutMessage}

/-- What holds whatever is done but sending, and while the queue is worked off, also holds while the
    association comes up. -/
theorem commUp_flushes {answers : (o : Op) → Transport → o.Reply → Prop} {P : Transport → Prop}
    (hquiet : ∀ s s', Unsending s s' → P s → P s')
    (hflush : ∀ s, s.state = .connected → P s →
      (sctpSendDeferredMessages.run s).Always answers fun _ s' => P s') {s : Transport} (h : P s) :
    ((handleAssociationChangeEvent .commUp).run s).Always answers fun _ s' => P s' := by
  have hclosing : TransportState.connected ≠ .closed := by decide
  simp only [handleAssociationChangeEvent, Routine.run_bind, Routine.run_get, Prog.bind,
    Routine.run_ite]
  split
  · let t : Transport := (s.setState .connected).log (.transportState .connected)
    have ht : P t := hquiet s t ⟨rfl, rfl, [_], rfl, by simp⟩ h
    simp only [setState, if_neg hclosing, if_true, Routine.run_bind, Prog.bind,
      Routine.run_modify, run_logEvent, Prog.always_bind]
    apply Prog.Always.mono (hflush t rfl ht)
    intro _ s₁ h₁
    apply Prog.Always.mono (setDataChannelStatesFrom_unsending (.refl s₁) _ _ 0 s₁.nChannels)
    intro _ s₂ h₂
    simp only [Routine.run_get, Prog.always_ret, Routine.run_ite]
    split
    · exact Prog.Always.mono (callHandler_unsending h₂ _) fun _ s₃ h₃ => hquiet s₁ s₃ h₃ h₁
    · exact hquiet s₁ s₂ h₂ h₁
  · exact h

/-- `handle_association_change_event` when the association is up: the queue is worked off if the
    transport was connecting. -/
theorem commUp_always (b : Outbox) (s : Transport)
    (h : Represents requested b s.bufferedMessagesOutgoing s)
    (hrequested : b.messages ⊆ requested) :
    ((handleAssociationChangeEvent .commUp).run s).Always backPressure fun _ s' =>
      s'.usrsctpChunkSize = s.usrsctpChunkSize ∧ ∃ b', b'.messages = b.messages ∧
        Represents requested b' s'.bufferedMessagesOutgoing s' := by
  apply commUp_flushes
  · intro s₁ s₂ h₂ h₁
    obtain ⟨hsize, b', hmessages, hrep⟩ := h₁
    exact ⟨h₂.usrsctpChunkSize.trans hsize, b', hmessages, h₂.represents hrep⟩
  · intro s₁ hconnected h₁
    obtain ⟨hsize, b', hmessages, hrep⟩ := h₁
    have hwaiting : b'.waiting ⊆ requested := by
      apply List.Subset.trans _ hrequested
      rw [← hmessages]
      exact List.subset_append_right _ _
    apply Prog.Always.mono (sctpSendDeferredMessages_always b' s₁ hconnected hrep hwaiting)
    intro _ s₂ h₂
    obtain ⟨hsize', b'', hmessages', hrep'⟩ := h₂
    exact ⟨hsize'.trans hsize, b'', hmessages'.trans hmessages, hrep'⟩
  · exact ⟨rfl, b, rfl, h⟩

/-- A write event is ignored, or it finds the transport connected or nothing to send. -/
def Transport.ReadyToWrite (s : Transport) : Prop :=
  s.flags.detached = true ∨ s.flags.sendingInProgress = true ∨ s.state = .connected ∨
    s.bufferedMessagesOutgoing = []

/-- `write_event_handler`, if the transport is ready. -/
theorem writeEventHandler_always (b : Outbox) (s : Transport)
    (h : Represents requested b s.bufferedMessagesOutgoing s) (hrequested : b.waiting ⊆ requested)
    (hready : s.ReadyToWrite) :
    (writeEventHandler.run s).Always backPressure fun _ s' =>
      s'.usrsctpChunkSize = s.usrsctpChunkSize ∧ ∃ b', b'.messages = b.messages ∧
        Represents requested b' s'.bufferedMessagesOutgoing s' := by
  simp only [writeEventHandler, Routine.run_bind, Routine.run_get, Prog.bind, Routine.run_ite]
  split
  · exact ⟨rfl, b, rfl, h⟩
  · next hattached =>
    split
    · exact ⟨rfl, b, rfl, h⟩
    · next hfree =>
      let t : Transport := { s with flags := { s.flags with sendingInProgress := true } }
      have ht : Represents requested b t.bufferedMessagesOutgoing t :=
        ⟨h.handedOver, h.queue, h.framed⟩
      simp only [Routine.run_modify, Prog.bind, Prog.always_bind]
      rcases hready with hdetached | hsending | hconnected | hidle
      · exact absurd hdetached hattached
      · exact absurd hsending hfree
      · apply Prog.Always.mono (sctpSendDeferredMessages_always b t hconnected ht hrequested)
        intro _ s' h'
        obtain ⟨hsize, b', hmessages, hrep⟩ := h'
        exact ⟨hsize, b', hmessages, hrep.handedOver, hrep.queue, hrep.framed⟩
      · have hflush : sctpSendDeferredMessages.run t = .ret .success t :=
          run_sctpSendDeferredMessages_of_idle hidle
        rw [hflush]
        exact ⟨rfl, b, rfl, h.handedOver, h.queue, h.framed⟩

end Events

/-! ## Section 3: Runs -/

/-- What happens in a run. -/
inductive SendCall
  | send (m : OutMessage)
  | commUp
  | writeEvent

/-- The code behind it. -/
def SendCall.run [MessageBuffer] : SendCall → M Result
  | .send m => Result.code <$> sctpSend m.buffer m.info m.flags
  | .commUp => (fun _ => Result.done) <$> handleAssociationChangeEvent .commUp
  | .writeEvent => Result.events <$> writeEventHandler

/-- The message `sctp_send` is called with. -/
def SendCall.requested? : SendCall × Result → Option OutMessage
  | (.send m, _) => some m
  | _ => none

/-- The message `sctp_send` is called with, if it returns success. -/
def SendCall.accepted? : SendCall × Result → Option OutMessage
  | (.send m, .code .success) => some m
  | _ => none

/-- The messages `sctp_send` was called with, in order. -/
def requested (done : List (SendCall × Result)) : List OutMessage :=
  done.filterMap SendCall.requested?

/-- The messages for which `sctp_send` returned success, in order. -/
def accepted (done : List (SendCall × Result)) : List OutMessage :=
  done.filterMap SendCall.accepted?

theorem accepted_subset (done : List (SendCall × Result)) : accepted done ⊆ requested done := by
  intro m hm
  obtain ⟨x, hx, hsome⟩ := List.mem_filterMap.mp hm
  refine List.mem_filterMap.mpr ⟨x, hx, ?_⟩
  unfold SendCall.accepted? at hsome
  split at hsome
  · exact hsome
  · cases hsome

/-- Sending under back-pressure. Every write event meets the condition. -/
def sendHost [MessageBuffer] (ready : Transport → Prop) :
    Host SendCall Op Op.Reply Transport Result where
  code := SendCall.run
  permits _ s a := match a with
    | .writeEvent => ready s
    | .send _ | .commUp => True
  answers := backPressure

/-- What has been handed over after a run. -/
structure SentInOrder (chunkSize : Nat) (done : List (SendCall × Result)) (s : Transport) :
    Prop where
  /-- It is the beginning of the accepted messages, in order, with their own send information. -/
  handedOver_prefix_accepted : handedOver s.history <+: (accepted done).flatMap OutMessage.tagged
  /-- All of them have been handed over if none waits. -/
  handedOver_eq : s.bufferedMessagesOutgoing = [] →
    handedOver s.history = (accepted done).flatMap OutMessage.tagged
  /-- Every call continues one message behind the ones before it, and says whether it reaches
      its end. -/
  framed : Framed chunkSize (accepted done) (requested done) s.history
  /-- No call offers more than a chunk. -/
  chunk_le : ∀ buffer info flags written, .sendv buffer info flags written ∈ s.history →
    buffer.length ≤ chunkSize

section Runs

variable [MessageBuffer]

/-- One step of a run: the outbox has the messages that have been accepted. -/
theorem turn_represents {s s' : Transport} {a : SendCall} {r : Result}
    (hturn : Turn (sendHost Transport.ReadyToWrite) s a r s') {done : List (SendCall × Result)}
    {b : Outbox} (hmessages : b.messages = accepted done)
    (h : Represents (requested done) b s.bufferedMessagesOutgoing s) :
    s'.usrsctpChunkSize = s.usrsctpChunkSize ∧
      ∃ b', b'.messages = accepted (done ++ [(a, r)]) ∧
        Represents (requested (done ++ [(a, r)])) b' s'.bufferedMessagesOutgoing s' := by
  obtain ⟨hpermits, hout⟩ := hturn
  let requested' := requested (done ++ [(a, r)])
  have hmore : requested done ⊆ requested' := by
    unfold requested' requested
    rw [List.filterMap_append]
    exact List.subset_append_left _ _
  -- more messages have been requested, which does not change the outbox
  have h' : Represents requested' b s.bufferedMessagesOutgoing s :=
    ⟨h.handedOver, h.queue, h.framed.mono (List.prefix_refl _) hmore⟩
  have hrequested : b.messages ⊆ requested' := by
    rw [hmessages]
    exact List.Subset.trans (accepted_subset done) hmore
  have hwaiting : b.waiting ⊆ requested' :=
    List.Subset.trans (List.subset_append_right _ _) hrequested
  cases a with
  | send m =>
    have hm : m ∈ requested' := by simp [requested', requested, SendCall.requested?]
    obtain ⟨code, s₁, hcode, hrest⟩ := Prog.outcome_bind_iff.mp hout
    obtain ⟨rfl, rfl⟩ := Prog.outcome_ret_iff.mp hrest
    obtain ⟨hsize, b', hb', hrep⟩ := Prog.always_iff.mp (sctpSend_always m b s h' hm) _ _ hcode
    refine ⟨hsize, b', ?_, hrep⟩
    rw [hb', hmessages]
    unfold accepted
    rw [List.filterMap_append]
    -- the outbox has got the message exactly if it was accepted
    by_cases hsuccess : code = .success
    · subst hsuccess
      rfl
    · have hnone : SendCall.accepted? (.send m, .code code) = none := by
        cases code <;> first | rfl | exact absurd rfl hsuccess
      rw [if_neg hsuccess, List.filterMap_cons_none hnone, List.filterMap_nil, List.append_nil]
  | commUp =>
    obtain ⟨_, s₁, hup, hrest⟩ := Prog.outcome_bind_iff.mp hout
    obtain ⟨rfl, rfl⟩ := Prog.outcome_ret_iff.mp hrest
    obtain ⟨hsize, b', hb', hrep⟩ := Prog.always_iff.mp (commUp_always b s h' hrequested) _ _ hup
    refine ⟨hsize, b', ?_, hrep⟩
    rw [hb', hmessages]
    simp [accepted, SendCall.accepted?]
  | writeEvent =>
    obtain ⟨_, s₁, hwrite, hrest⟩ := Prog.outcome_bind_iff.mp hout
    obtain ⟨rfl, rfl⟩ := Prog.outcome_ret_iff.mp hrest
    obtain ⟨hsize, b', hb', hrep⟩ :=
      Prog.always_iff.mp (writeEventHandler_always b s h' hwaiting hpermits) _ _ hwrite
    refine ⟨hsize, b', ?_, hrep⟩
    rw [hb', hmessages]
    simp [accepted, SendCall.accepted?]

/-- Every run is followed by an outbox. -/
theorem turns_represents {s₀ s : Transport} {done : List (SendCall × Result)}
    (hidle : s₀.bufferedMessagesOutgoing = []) (hnew : s₀.history = [])
    (h : Turns (sendHost Transport.ReadyToWrite) s₀ done s) :
    s.usrsctpChunkSize = s₀.usrsctpChunkSize ∧ ∃ b, b.messages = accepted done ∧
      Represents (requested done) b s.bufferedMessagesOutgoing s := by
  induction h with
  | nil =>
    refine ⟨rfl, .empty, rfl, ?_, ?_, ?_⟩
    · rw [hnew]
      rfl
    · rw [hidle]
      rfl
    · rw [hnew]
      exact .nil
  | snoc _ hturn ih =>
    obtain ⟨hsize, b, hmessages, hrep⟩ := ih
    obtain ⟨hsize', h'⟩ := turn_represents hturn hmessages hrep
    exact ⟨hsize'.trans hsize, h'⟩

/-- **Messages are sent in order and framed correctly**, whatever usrsctp accepts of them and
    when, if every write event finds the transport ready. -/
theorem sent_in_order {s₀ s : Transport} {done : List (SendCall × Result)}
    (hidle : s₀.bufferedMessagesOutgoing = []) (hnew : s₀.history = [])
    (h : Turns (sendHost Transport.ReadyToWrite) s₀ done s) :
    SentInOrder s₀.usrsctpChunkSize done s := by
  obtain ⟨hsize, b, hmessages, hrep⟩ := turns_represents hidle hnew h
  have hframed : Framed s₀.usrsctpChunkSize (accepted done) (requested done) s.history := by
    rw [← hsize, ← hmessages]
    exact hrep.framed
  refine ⟨?_, ?_, hframed, ?_⟩
  · rw [hrep.handedOver, ← hmessages]
    exact b.handedOver_prefix_messages
  · intro hqueue
    rw [hqueue] at hrep
    rw [hrep.handedOver_eq, hmessages]
  · intro buffer info flags written he
    obtain ⟨i, hi⟩ := List.mem_iff_getElem?.mp he
    obtain ⟨_, m, offset, -, -, -, -, rfl, -⟩ := hframed i buffer info flags written hi
    rw [List.length_take]
    exact min_le_left _ _

end Runs

/-! ## Section 4: A message that is lost -/

/-- usrsctp accepts at most one byte at a time, and everything else succeeds. -/
def slowOracle : (o : Op) → Transport → o.Reply
  | .sendv buffer _ _, _ => .ok (min 1 buffer.length)
  | o, s => obligingOracle o s

theorem slowOracle_backPressure (o : Op) (s : Transport) :
    backPressure o s (slowOracle o s) := by
  cases o with
  | alloc =>
    intro h
    cases h
  | allocSendContext => rfl
  | sendv buffer info flags => exact min_le_right _ _
  | _ => trivial

/-- The library with a message buffer on plain lists. -/
abbrev listSendHost (ready : Transport → Prop) : Host SendCall Op Op.Reply Transport Result :=
  @sendHost listMessageBuffer ready

/-- A transport that waits for its association, with one slot for a channel. -/
def Transport.awaiting : Transport :=
  { Transport.create false false false false 2 with
    state := .connecting
    nChannels := 1
    nChannels_pos := Nat.one_pos
    nChannels_le := Nat.le_of_ble_eq_true rfl }

/-- A binary message on a stream. -/
def OutMessage.ofBytes (sid : Nat) (bytes : Bytes) (h : bytes ≠ []) : OutMessage where
  buffer := { data := bytes }
  info := .spa { sendvSndinfo := { sndSid := sid, sndPpid := ppidBinary, eor := true } }
  flags := 0
  nonempty := h
  eor := ⟨_, rfl, rfl⟩

/-- A message of three bytes that waits for the connection, and a write event. -/
theorem sent_in_order_commUp :
    let H := listSendHost Transport.ReadyToWrite
    let m := OutMessage.ofBytes 0 [1, 2, 3] (by decide)
    let s₁ := H.exec slowOracle .awaiting (.send m)
    let s₂ := H.exec slowOracle s₁.2 .commUp
    let s₃ := H.exec slowOracle s₂.2 .writeEvent
    SentInOrder 2 [(.send m, s₁.1), (.commUp, s₂.1), (.writeEvent, s₃.1)] s₃.2 := by
  intro H m s₁ s₂ s₃
  have hconnected : s₂.2.state = .connected := by decide +kernel
  have hready : s₂.2.ReadyToWrite := .inr (.inr (.inl hconnected))
  have h₁ := (Turns.nil (H := H) Transport.awaiting).exec slowOracle_backPressure (a := .send m)
    trivial
  have h₂ := h₁.exec slowOracle_backPressure (a := .commUp) trivial
  have h₃ := h₂.exec slowOracle_backPressure (a := .writeEvent) hready
  exact @sent_in_order listMessageBuffer Transport.awaiting s₃.2 _ rfl rfl h₃

/-- **A message is lost if a write event comes before the connection**: it was accepted, but what
    is handed over is only the message after it. -/
theorem not_sent_in_order : ¬ ∀ (s₀ s : Transport) (done : List (SendCall × Result)),
    s₀.bufferedMessagesOutgoing = [] → s₀.history = [] →
    Turns (listSendHost fun _ => True) s₀ done s → SentInOrder s₀.usrsctpChunkSize done s := by
  intro h
  let m₁ := OutMessage.ofBytes 0 [1] (by decide)
  let m₂ := OutMessage.ofBytes 0 [2] (by decide)
  have h₁ := (Turns.nil (H := listSendHost fun _ => True) Transport.awaiting).exec
    slowOracle_backPressure (a := .send m₁) trivial
  have h₂ := h₁.exec slowOracle_backPressure (a := .writeEvent) trivial
  have h₃ := h₂.exec slowOracle_backPressure (a := .commUp) trivial
  have h₄ := h₃.exec slowOracle_backPressure (a := .send m₂) trivial
  have hbegins := (h _ _ _ rfl rfl h₄).handedOver_prefix_accepted
  revert hbegins
  decide +kernel

end RawrtcDataChannel
