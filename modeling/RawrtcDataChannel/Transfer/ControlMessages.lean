import RawrtcDataChannel.Transfer.ChannelFrames
import RawrtcDataChannel.Transfer.Inbound
import RawrtcDataChannel.Reentrant.Machine

/-!
# DCEP messages in pieces

The transport has one reassembly buffer for the DCEP messages of all streams. As long as at most
one stream is in the middle of a DCEP message, that is as good as one for each stream, and the
messages that are handled are the ones that were completed.

The code does not make sure of this. Pieces of different streams may alternate, and then the
buffer mixes them up. Nor does the end of a partial delivery release the buffer: it only affects
the reassembly buffer of the stream's channel.
-/

namespace RawrtcDataChannel

open Reentrant Reassembly

variable {answers : (o : Op) → Transport → o.Reply → Prop}

/-! ## Section 1: Routines that handle no piece of a DCEP message -/

/-- The DCEP messages that have been handled, with the stream ids they were handled for. -/
def dcepMessages (history : List Event) : List (Nat × Bytes) :=
  history.filterMap fun
    | .dcepMessage sid message => some (sid, message)
    | _ => none

@[simp] theorem dcepMessages_append (history history' : List Event) :
    dcepMessages (history ++ history') = dcepMessages history ++ dcepMessages history' := by
  simp [dcepMessages]

/-- The reassembly of DCEP messages is the same, and whether it goes on. -/
structure SameDcep (s s' : Transport) : Prop where
  buffer : s'.bufferDcepInbound = s.bufferDcepInbound
  info : s'.infoDcepInbound = s.infoDcepInbound
  state : s'.state = s.state
  detached : s'.flags.detached = s.flags.detached
  messages : dcepMessages s'.history = dcepMessages s.history

instance : IsPreorder Transport SameDcep where
  refl _ := ⟨rfl, rfl, rfl, rfl, rfl⟩
  trans _ _ _ h h' := ⟨h'.buffer.trans h.buffer, h'.info.trans h.info, h'.state.trans h.state,
    h'.detached.trans h.detached, h'.messages.trans h.messages⟩

theorem SendsOnly.sameDcep {s s' : Transport} (h : SendsOnly s s') : SameDcep s s' := by
  obtain ⟨low, queue, es, rfl, hes, -⟩ := h
  refine ⟨rfl, rfl, rfl, rfl, ?_⟩
  have hnone : dcepMessages es = [] := by
    unfold dcepMessages
    rw [List.filterMap_eq_nil_iff]
    intro e he
    have hsending := hes e he
    cases e <;> first | rfl | cases hsending
  simp [Transport.afterSends, hnone]

/-- Working on the channels leaves the reassembly of DCEP messages alone. -/
instance : ChannelFrame SameDcep where
  modifyChannel _ _ _ := ⟨rfl, rfl, rfl, rfl, rfl⟩
  newChannel _ _ := ⟨rfl, rfl, rfl, rfl, rfl⟩
  setSlot _ _ _ := ⟨rfl, rfl, rfl, rfl, rfl⟩
  setTurn _ _ := ⟨rfl, rfl, rfl, rfl, rfl⟩
  raiseFlag _ := ⟨rfl, rfl, rfl, rfl, rfl⟩
  log s e he := by
    have hnone : dcepMessages [e] = [] := by
      cases e <;> first | rfl | cases he
    exact ⟨rfl, rfl, rfl, rfl, by simp [Transport.log, hnone]⟩
  sends _ _ := SendsOnly.sameDcep

/-! ## Section 2: What arrives -/

/-- A piece of a DCEP message, or the end of a partial delivery. -/
inductive ControlArrival
  | piece (sid : Nat) (bytes : Bytes) (eor : Bool)
  | abort (sid : Nat)

namespace ControlArrival

/-- What the event loop does with it. -/
def toCall : ControlArrival → Call
  | .piece sid bytes eor => .readEvent (.data bytes (some ⟨sid, ppidDcep⟩) eor)
  | .abort sid => .readEvent (.notification 0 0 (.partialDelivery sid))

/-- What it means for the reassembly of its stream. -/
def toArrival : ControlArrival → Arrival Nat RcvInfo UInt8
  | .piece sid bytes eor => .piece ⟨sid, ⟨sid, ppidDcep⟩, bytes, eor⟩
  | .abort sid => .abort sid

end ControlArrival

/-- The reassembly of DCEP messages, for each stream on its own. -/
def assembleControl (arrivals : List ControlArrival) : Assembly Nat RcvInfo UInt8 :=
  arrivals.foldl (fun a x => a.arrive x.toArrival) .empty

/-- No other stream is in the middle of a DCEP message when a piece arrives, and the end of a
    partial delivery does not concern a DCEP message. -/
def Undisturbed (a : Assembly Nat RcvInfo UInt8) : ControlArrival → Prop
  | .piece sid _ _ => ∀ sid', sid' ≠ sid → a.unfinished sid' = none
  | .abort sid => a.unfinished sid = none

/-- At every arrival. -/
def AllUndisturbed : Assembly Nat RcvInfo UInt8 → List ControlArrival → Prop
  | _, [] => True
  | a, x :: arrivals => Undisturbed a x ∧ AllUndisturbed (a.arrive x.toArrival) arrivals

theorem allUndisturbed_concat (a : Assembly Nat RcvInfo UInt8) (arrivals : List ControlArrival)
    (x : ControlArrival) : AllUndisturbed a (arrivals ++ [x]) ↔ AllUndisturbed a arrivals ∧
      Undisturbed (arrivals.foldl (fun a x => a.arrive x.toArrival) a) x := by
  induction arrivals generalizing a with
  | nil => simp [AllUndisturbed]
  | cons y arrivals ih => simp [AllUndisturbed, ih, and_assoc]

/-- The DCEP messages of the transport are the ones that have been completed, each with its own
    stream id, and the transport's buffer holds the one that is unfinished. -/
structure Reassembles (s₀ s : Transport) (a : Assembly Nat RcvInfo UInt8) : Prop where
  messages : dcepMessages s.history =
    dcepMessages s₀.history ++ a.completed.map fun m => (m.1, m.2.2)
  buffer : ∃ sid, HeldAs s.bufferDcepInbound s.infoDcepInbound (a.unfinished sid) ∧
    ∀ sid', sid' ≠ sid → a.unfinished sid' = none
  sids : ∀ sid m, a.unfinished sid = some m → m.1.rcvSid = sid
  connected : s.state = .connected
  attached : s.flags.detached = false

/-! ## Section 3: One arrival -/

section Arrivals

variable {s₀ s : Transport} {a : Assembly Nat RcvInfo UInt8}

/-- What is the same for the reassembly stays true. -/
theorem Reassembles.same (h : Reassembles s₀ s a) {s' : Transport} (hs : SameDcep s s') :
    Reassembles s₀ s' a where
  messages := hs.messages.trans h.messages
  buffer := by
    rw [hs.buffer, hs.info]
    exact h.buffer
  sids := h.sids
  connected := hs.state.trans h.connected
  attached := hs.detached.trans h.attached

/-- If no other stream is in the middle of a message, the buffer is the one of this stream. -/
theorem Reassembles.held (h : Reassembles s₀ s a) {sid : Nat}
    (hothers : ∀ sid', sid' ≠ sid → a.unfinished sid' = none) :
    HeldAs s.bufferDcepInbound s.infoDcepInbound (a.unfinished sid) := by
  obtain ⟨sid', hheld, hothers'⟩ := h.buffer
  by_cases hsid : sid' = sid
  · rw [← hsid]
    exact hheld
  · rw [hothers sid' hsid] at hheld
    rw [hothers' sid (Ne.symm hsid)]
    exact hheld

theorem completes_dcep (sid : Nat) (eor : Bool) : completes ⟨sid, ppidDcep⟩ eor = eor := by
  cases eor <;> rfl

/-- The label of the message a piece belongs to has the stream id of the piece. -/
theorem Reassembles.extend_sid (h : Reassembles s₀ s a) (sid : Nat) (bytes : Bytes) :
    (extend (a.unfinished sid) ⟨sid, ppidDcep⟩ bytes).1.rcvSid = sid := by
  cases hu : a.unfinished sid with
  | none => rfl
  | some m => exact h.sids sid m hu

/-- A piece that does not complete its message has been buffered. -/
theorem Reassembles.more (h : Reassembles s₀ s a) (sid : Nat) (bytes : Bytes)
    (hothers : ∀ sid', sid' ≠ sid → a.unfinished sid' = none) :
    Reassembles s₀ (s.keepDcep
      (some (.full (extend (a.unfinished sid) ⟨sid, ppidDcep⟩ bytes).2))
      (extend (a.unfinished sid) ⟨sid, ppidDcep⟩ bytes).1)
      (a.arrive (ControlArrival.piece sid bytes false).toArrival) := by
  unfold ControlArrival.toArrival
  rw [a.arrive_more rfl]
  refine ⟨h.messages, ⟨sid, ?_, ?_⟩, ?_, h.connected, h.attached⟩
  · dsimp only
    rw [Function.update_self]
    exact ⟨rfl, rfl⟩
  · intro sid' hsid'
    dsimp only
    rw [Function.update_of_ne hsid']
    exact hothers sid' hsid'
  · intro sid' m hm
    dsimp only at hm
    by_cases hsid' : sid' = sid
    · subst hsid'
      rw [Function.update_self] at hm
      rw [← Option.some.inj hm]
      exact h.extend_sid sid' bytes
    · rw [Function.update_of_ne hsid', hothers sid' hsid'] at hm
      cases hm

/-- A message that has been completed was handled, and the buffer has been released. -/
theorem Reassembles.last (h : Reassembles s₀ s a) (sid : Nat) (bytes : Bytes)
    (hothers : ∀ sid', sid' ≠ sid → a.unfinished sid' = none) {s' : Transport}
    (hstate : s'.state = s.state) (hdetached : s'.flags.detached = s.flags.detached)
    (hmessages : dcepMessages s'.history = dcepMessages s.history ++
      [(sid, (extend (a.unfinished sid) ⟨sid, ppidDcep⟩ bytes).2)]) :
    Reassembles s₀ (s'.setDcepBuffer none)
      (a.arrive (ControlArrival.piece sid bytes true).toArrival) := by
  have hnone : ∀ sid', (Function.update a.unfinished sid none) sid' = none := by
    intro sid'
    by_cases hsid' : sid' = sid
    · rw [hsid', Function.update_self]
    · rw [Function.update_of_ne hsid']
      exact hothers sid' hsid'
  unfold ControlArrival.toArrival
  rw [a.arrive_last rfl]
  refine ⟨?_, ⟨sid, ?_, fun sid' _ => hnone sid'⟩, ?_, hstate.trans h.connected,
    hdetached.trans h.attached⟩
  · simp only [Transport.setDcepBuffer, hmessages, h.messages, List.map_append, List.map_cons,
      List.map_nil, List.append_assoc]
  · dsimp only
    rw [hnone sid]
    rfl
  · intro sid' m hm
    dsimp only at hm
    rw [hnone sid'] at hm
    cases hm

section Handle

variable [MessageBuffer]

/-- `handle_dcep_message`, for a piece of the only DCEP message that may be unfinished. -/
theorem handleDcepMessage_always (hanswers : AmpleMemory answers) (h : Reassembles s₀ s a)
    (sid : Nat) (bytes : Bytes) (eor : Bool)
    (hothers : ∀ sid', sid' ≠ sid → a.unfinished sid' = none) :
    ((handleDcepMessage { data := bytes } ⟨sid, ppidDcep⟩ eor).run s).Always answers fun _ s' =>
      Reassembles s₀ s' (a.arrive (ControlArrival.piece sid bytes eor).toArrival) := by
  have hsid := h.extend_sid sid bytes
  simp only [handleDcepMessage, Routine.run_bind, Routine.run_get, Prog.bind, Prog.always_bind]
  apply Prog.Always.mono (bufferMessageReceivedRaiseComplete_always hanswers (h.held hothers) bytes
    ⟨sid, ppidDcep⟩ eor s)
  intro r s' hr
  obtain ⟨rfl, rfl⟩ := hr
  rw [completes_dcep]
  cases eor with
  | false => exact h.more sid bytes hothers
  | true =>
    simp only [if_true, Routine.run_bind, Routine.run_modify, run_logEvent, Prog.bind,
      Mbuf.rest_mk_zero, hsid]
    generalize hm : extend (a.unfinished sid) ⟨sid, ppidDcep⟩ bytes = m
    generalize (Mbuf.mk m.2 0).readU8 = message
    obtain ⟨messageType, buffer⟩ := message
    -- handling the message does not touch the buffer, which is released in the end
    have hdone : ∀ s₂, SameDcep (((s'.keepDcep (some ⟨m.2, 0⟩) m.1).log
        (.dcepMessage sid m.2)).setDcepBuffer (some buffer)) s₂ →
        Reassembles s₀ (s₂.setDcepBuffer none)
          (a.arrive (ControlArrival.piece sid bytes true).toArrival) := by
      intro s₂ h₂
      apply h.last sid bytes hothers h₂.state h₂.detached
      rw [h₂.messages, hm]
      simp [Transport.setDcepBuffer, Transport.log, Transport.keepDcep, dcepMessages]
    simp only [Routine.run_ite, Routine.run_bind, Routine.run_modify]
    split
    · rw [Prog.always_ret, Prog.always_bind]
      exact Prog.Always.mono (handleDataChannelAckMessage_keeps _ _) fun _ s₂ h₂ => hdone s₂ h₂
    · split
      · rw [Prog.always_ret, Prog.always_bind]
        exact Prog.Always.mono (handleDataChannelOpenMessage_keeps _ _ _) fun _ s₂ h₂ => hdone s₂ h₂
      · exact hdone _ (refl_of SameDcep _)

/-- What the event loop does with an arrival. -/
theorem arrival_always (hanswers : AmpleMemory answers) (h : Reassembles s₀ s a)
    (x : ControlArrival) (hx : Undisturbed a x) :
    ((Call.run x.toCall).run s).Always answers fun _ s' =>
      Reassembles s₀ s' (a.arrive x.toArrival) := by
  have hattached : ¬ s.flags.detached = true := by simp [h.attached]
  have hconnected : ¬ s.state ≠ .connected := not_not.mpr h.connected
  cases x with
  | piece sid bytes eor =>
    simp only [ControlArrival.toCall, Call.run, readEventHandler, Routine.run_map,
      Routine.run_bind, Routine.run_get, Prog.bind, Routine.run_ite, if_neg hattached, run_alloc]
    intro ok hok
    obtain rfl : ok = true := hanswers s ok hok
    simp only [if_true, if_neg hconnected, dataReceiveHandler, Prog.always_bind]
    exact Prog.Always.mono (handleDcepMessage_always hanswers h sid bytes eor hx) fun _ _ h' => h'
  | abort sid =>
    -- nothing is discarded, and nothing has to be
    have hsame : a.arrive (ControlArrival.abort sid).toArrival = a := by
      have hnone : Function.update a.unfinished sid none = a.unfinished :=
        Function.update_eq_self_iff.mpr hx.symm
      simp only [ControlArrival.toArrival, Assembly.arrive, hnone]
    rw [hsame]
    simp only [ControlArrival.toCall, Call.run, readEventHandler, Routine.run_map,
      Routine.run_bind, Routine.run_get, Prog.bind, Routine.run_ite, if_neg hattached, run_alloc]
    intro ok hok
    obtain rfl : ok = true := hanswers s ok hok
    simp only [if_true, handleNotification, ne_eq, not_true, if_false, Prog.always_bind]
    exact Prog.Always.mono (handlePartialDeliveryEvent_keeps sid s) fun _ _ hs => h.same hs

end Handle

end Arrivals

/-! ## Section 4: Runs -/

/-- What the surroundings answer, if there is memory. -/
def ampleMemory : (o : Op) → Transport → o.Reply → Prop
  | .alloc, _, ok => (ok : Bool) = true
  | .allocSendContext, _, ok => (ok : Bool) = true
  | _, _, _ => True

theorem ampleMemory_ampleMemory : AmpleMemory ampleMemory :=
  fun _ _ h => h

/-- The event loop, which reads pieces of DCEP messages and ends of partial deliveries. -/
def controlHost [MessageBuffer] : Host ControlArrival Op Op.Reply Transport Result where
  code x := Call.run x.toCall
  permits _ _ _ := True
  answers := ampleMemory

/-- **DCEP messages of different streams do not disturb one another**, if no two streams are in
    the middle of one at the same time. -/
theorem control_messages_apart [MessageBuffer] {s₀ s : Transport}
    {done : List (ControlArrival × Result)} (hconnected : s₀.state = .connected)
    (hattached : s₀.flags.detached = false) (hidle : s₀.bufferDcepInbound = none)
    (h : Turns controlHost s₀ done s) (hundisturbed : AllUndisturbed .empty (done.map Prod.fst)) :
    Reassembles s₀ s (assembleControl (done.map Prod.fst)) := by
  induction h with
  | nil =>
    refine ⟨by simp [assembleControl, Assembly.empty], ⟨0, hidle, fun _ _ => rfl⟩, ?_, hconnected,
      hattached⟩
    intro sid m hm
    cases hm
  | @snoc s s' done x r _ hturn ih =>
    rw [List.map_append] at hundisturbed ⊢
    obtain ⟨hpast, hx⟩ := (allUndisturbed_concat _ _ _).mp hundisturbed
    have hstep := arrival_always ampleMemory_ampleMemory (ih hpast) x hx
    have hall := Prog.always_iff.mp hstep r s' hturn.2
    simpa [assembleControl, List.foldl_append] using hall

/-- The library with a message buffer on plain lists. -/
abbrev listControlHost : Host ControlArrival Op Op.Reply Transport Result :=
  @controlHost listMessageBuffer

/-- A transport whose association is up. -/
def Transport.up : Transport :=
  { Transport.create false false false false 1200 with state := .connected }

theorem obligingOracle_ampleMemory (o : Op) (s : Transport) :
    ampleMemory o s (obligingOracle o s) := by
  cases o with
  | alloc | allocSendContext => rfl
  | _ => trivial

/-- A message in two pieces, and the end of a partial delivery on another stream. -/
theorem control_messages_apart_pieces :
    let H := listControlHost
    let s₁ := H.exec obligingOracle .up (.piece 2 [3, 0] false)
    let s₂ := H.exec obligingOracle s₁.2 (.abort 0)
    let s₃ := H.exec obligingOracle s₂.2 (.piece 2 [1] true)
    Reassembles .up s₃.2 (assembleControl [.piece 2 [3, 0] false, .abort 0, .piece 2 [1] true]) := by
  intro H s₁ s₂ s₃
  have h₁ := (Turns.nil (H := H) Transport.up).exec obligingOracle_ampleMemory
    (a := .piece 2 [3, 0] false) trivial
  have h₂ := h₁.exec obligingOracle_ampleMemory (a := .abort 0) trivial
  have h₃ := h₂.exec obligingOracle_ampleMemory (a := .piece 2 [1] true) trivial
  have hundisturbed : AllUndisturbed .empty
      [.piece 2 [3, 0] false, .abort 0, .piece 2 [1] true] := by
    refine ⟨fun _ _ => rfl, rfl, ?_, trivial⟩
    intro sid' hsid'
    simp [ControlArrival.toArrival, Assembly.arrive, Assembly.empty, Function.update_apply, hsid']
  exact @control_messages_apart listMessageBuffer Transport.up s₃.2 _ rfl rfl rfl h₃ hundisturbed

/-- **Pieces of two streams are mixed up**: the ACK on one stream is put behind the beginning of
    an OPEN message on the other one. -/
theorem not_control_messages_apart : ¬ ∀ (s₀ s : Transport) (done : List (ControlArrival × Result)),
    s₀.state = .connected → s₀.flags.detached = false → s₀.bufferDcepInbound = none →
    Turns listControlHost s₀ done s →
    Reassembles s₀ s (assembleControl (done.map Prod.fst)) := by
  intro h
  have h₁ := (Turns.nil (H := listControlHost) Transport.up).exec obligingOracle_ampleMemory
    (a := .piece 2 [3, 0] false) trivial
  have h₂ := h₁.exec obligingOracle_ampleMemory (a := .piece 3 [2] true) trivial
  have hmessages := (h _ _ _ rfl rfl rfl h₂).messages
  revert hmessages
  decide +kernel

end RawrtcDataChannel
