import Mathlib.Data.List.Count
import Mathlib.Logic.Relation
import RawrtcDataChannel.Lifecycle.Registry
import RawrtcDataChannel.Reentrant.Uninterrupted

/-!
# Stream resets, one channel at a time

A stream reset event lists the ids of streams that have been reset, in one direction or in both.
What is done for one of these ids concerns one channel only, so it does not matter how the ids are
batched, or whether some of them are unknown or listed twice.

`ResetProgress` is what there is to know about one channel, and `ResetProgress.step` what one reset
makes of it. The code follows it: `handleStreamReset_always`.
-/

namespace RawrtcDataChannel

open Reentrant

/-! ## Section 1: Progress of one channel -/

/-- How far a channel has come with being reset. -/
structure ResetProgress where
  /-- The channel is in its slot. -/
  registered : Bool
  state : DataChannelState
  incoming : Bool
  outgoing : Bool
  /-- There is a close handler. -/
  closeHandler : Bool
  /-- How often the close handler has been called. -/
  closeCalls : Nat
  /-- How often a reset of the outgoing stream has been requested. -/
  requests : Nat
  /-- How many requests have been refused, or could not be made for lack of memory. -/
  failures : Nat
deriving DecidableEq

/-- What becomes of a request to reset the outgoing stream. -/
inductive RequestOutcome
  | postponed
  | accepted
  | refused
  | outOfMemory
deriving DecidableEq

namespace ResetProgress

variable (p : ResetProgress)

/-- The channel has not begun to close. -/
def isOpen : Bool :=
  p.state ≠ .closing ∧ p.state ≠ .closed

/-- The channel is closed, its handler is called and it is removed from its slot. -/
def close : ResetProgress :=
  { p with
    registered := false
    state := .closed
    closeCalls := if p.closeHandler then p.closeCalls + 1 else p.closeCalls }

/-- A request is made on behalf of an open channel. -/
def request : RequestOutcome → ResetProgress
  | .postponed => { p with state := .closing }
  | .accepted => { p with state := .closing, requests := p.requests + 1 }
  | .refused => { p with requests := p.requests + 1, failures := p.failures + 1 }.close
  | .outOfMemory => { p with failures := p.failures + 1 }.close

/-- An incoming stream has been reset. -/
def resetIncoming (outcome : RequestOutcome) : ResetProgress :=
  if p.isOpen then { p with incoming := true }.request outcome else { p with incoming := true }

/-- Close the channel if both of its streams have been reset. -/
def closeIfBoth : ResetProgress :=
  if p.incoming ∧ p.outgoing then p.close else p

/-- What a reset makes of a channel. Nothing is done for one that is not registered. -/
def step (event : StreamResetEvent) (outcome : RequestOutcome) : ResetProgress :=
  if p.registered then
    let q := if event.incomingSsn then p.resetIncoming outcome else p
    if q.registered then
      { q with outgoing := q.outgoing || event.outgoingSsn }.closeIfBoth
    else
      q
  else
    p

/-- Any number of resets. -/
abbrev Steps : ResetProgress → ResetProgress → Prop :=
  Relation.ReflTransGen fun p q => ∃ event outcome, q = p.step event outcome

/-- How many requests an incoming reset may still give rise to. -/
def allowance : Nat :=
  if p.isOpen then 1 else 0

variable {p} {q : ResetProgress} {event : StreamResetEvent} {outcome : RequestOutcome}

theorem step_of_not_registered (h : p.registered = false) : p.step event outcome = p := by
  unfold step
  rw [h]
  rfl

/-- A registered channel, when a reset of one or both streams comes in. -/
theorem step_of_registered (h : p.registered = true) : p.step event outcome =
    let q := if event.incomingSsn then p.resetIncoming outcome else p
    if q.registered then { q with outgoing := q.outgoing || event.outgoingSsn }.closeIfBoth
    else q := by
  unfold step
  rw [if_pos h]

/-- What resets may do, whatever they are about. -/
structure Advances (p q : ResetProgress) : Prop where
  failures : p.failures ≤ q.failures
  /-- An incoming reset gives rise to at most one request. -/
  requests : q.requests + q.allowance ≤ p.requests + p.allowance
  /-- A channel is removed for a reason. -/
  removed : p.registered = true → q.registered = false →
    (q.incoming = true ∧ q.outgoing = true) ∨ p.failures < q.failures

theorem Advances.refl (p : ResetProgress) : p.Advances p := by
  refine ⟨le_rfl, le_rfl, fun hp hq => ?_⟩
  rw [hp] at hq
  cases hq

/-- A reset goes on with a channel that is still registered. -/
theorem Advances.trans {r : ResetProgress} (h : p.Advances q) (h' : q.Advances r)
    (hq : q.registered = true) : p.Advances r where
  failures := h.failures.trans h'.failures
  requests := h'.requests.trans h.requests
  removed _ hr := (h'.removed hq hr).imp_right h.failures.trans_lt

theorem close_advances (h : p.incoming = true ∧ p.outgoing = true) : p.Advances p.close where
  failures := le_rfl
  requests := by simp [close, allowance, isOpen]
  removed _ _ := .inl h

theorem closeIfBoth_advances : p.Advances p.closeIfBoth := by
  unfold closeIfBoth
  split
  · next h => exact close_advances h
  · exact .refl p

theorem resetIncoming_advances : p.Advances (p.resetIncoming outcome) := by
  unfold resetIncoming
  split
  · next h =>
    -- the request uses up the allowance, whatever becomes of it
    have hopen : p.allowance = 1 := if_pos h
    cases outcome with
    | postponed =>
      exact ⟨le_rfl, by simp [request, allowance, isOpen],
        fun hp hq => by simp [request, hp] at hq⟩
    | accepted =>
      refine ⟨le_rfl, ?_, fun hp hq => by simp [request, hp] at hq⟩
      rw [hopen]
      simp [request, allowance, isOpen]
    | refused =>
      refine ⟨by simp [request, close], ?_, fun _ _ => .inr (by simp [request, close])⟩
      rw [hopen]
      simp [request, close, allowance, isOpen]
    | outOfMemory =>
      exact ⟨by simp [request, close], by simp [request, close, allowance, isOpen],
        fun _ _ => .inr (by simp [request, close])⟩
  · refine ⟨le_rfl, le_rfl, fun hp hq => ?_⟩
    rw [hp] at hq
    cases hq

theorem step_advances : p.Advances (p.step event outcome) := by
  unfold step
  split
  · next hp =>
    have hfirst : p.Advances (if event.incomingSsn then p.resetIncoming outcome else p) := by
      split
      · exact resetIncoming_advances
      · exact .refl p
    generalize (if event.incomingSsn then p.resetIncoming outcome else p) = q at hfirst ⊢
    show p.Advances (if q.registered then _ else q)
    split
    · next hq =>
      apply hfirst.trans _ hq
      have houtgoing : q.Advances { q with outgoing := q.outgoing || event.outgoingSsn } := by
        refine ⟨le_rfl, le_rfl, fun hp hq => ?_⟩
        rw [hp] at hq
        cases hq
      exact houtgoing.trans closeIfBoth_advances hq
    · exact hfirst
  · exact .refl p

theorem Steps.advances (h : Steps p q) : p.Advances q := by
  induction h with
  | refl => exact .refl p
  | tail _ hstep ih =>
    rename_i q r _
    obtain ⟨event, outcome, rfl⟩ := hstep
    cases hq : q.registered with
    | true => exact ih.trans step_advances hq
    | false =>
      -- the channel had been removed before
      rw [step_of_not_registered hq]
      exact ih

/-- The channel has been closed and removed, and its close handler has been called once. -/
structure Finished (p q : ResetProgress) : Prop where
  registered : q.registered = false
  state : q.state = .closed
  closeCalls : q.closeCalls = p.close.closeCalls

/-- The channel is still registered after a reset: it waits for the other direction. -/
structure Waits (event : StreamResetEvent) (p q : ResetProgress) : Prop where
  registered : q.registered = true
  closeHandler : q.closeHandler = p.closeHandler
  closeCalls : q.closeCalls = p.closeCalls
  incoming : q.incoming = (p.incoming || event.incomingSsn)
  outgoing : q.outgoing = (p.outgoing || event.outgoingSsn)
  notBoth : ¬ (q.incoming = true ∧ q.outgoing = true)
  state : q.state = if event.incomingSsn && p.isOpen then .closing else p.state
  requests : event.incomingSsn = false ∨ p.isOpen = false → q.requests = p.requests

/-- An incoming stream has been reset: the channel is removed, or it is closing now. -/
theorem resetIncoming_cases (p : ResetProgress) (outcome : RequestOutcome) :
    p.Finished (p.resetIncoming outcome) ∨ ∃ requests, p.resetIncoming outcome =
      { p with
        incoming := true
        state := if p.isOpen then .closing else p.state
        requests := requests } ∧ (p.isOpen = false → requests = p.requests) := by
  unfold resetIncoming
  split
  · next h =>
    cases outcome with
    | postponed => exact .inr ⟨p.requests, by simp [request], fun _ => rfl⟩
    | accepted => exact .inr ⟨p.requests + 1, by simp [request], by simp [h]⟩
    | refused | outOfMemory => exact .inl ⟨rfl, rfl, rfl⟩
  · exact .inr ⟨p.requests, by simp, fun _ => rfl⟩

/-- What a reset comes to. -/
theorem step_cases (hp : p.registered = true) (event : StreamResetEvent)
    (outcome : RequestOutcome) : p.Finished (p.step event outcome) ∨
      p.Waits event (p.step event outcome) := by
  -- the end of the loop body, which is the same with and without an incoming reset
  have hend : ∀ q : ResetProgress, q.registered = true → q.closeHandler = p.closeHandler →
      q.closeCalls = p.closeCalls → q.incoming = (p.incoming || event.incomingSsn) →
      q.outgoing = p.outgoing → q.state = (if event.incomingSsn && p.isOpen then .closing
        else p.state) → (event.incomingSsn = false ∨ p.isOpen = false → q.requests = p.requests) →
      let r := { q with outgoing := q.outgoing || event.outgoingSsn }.closeIfBoth
      p.Finished r ∨ p.Waits event r := by
    intro q hq hhandler hcalls hin hout hstate hrequests
    by_cases hboth : q.incoming = true ∧ (q.outgoing || event.outgoingSsn) = true
    · -- its own request has failed, so the end of the body is not reached
      left
      simp only [closeIfBoth, if_pos hboth]
      exact ⟨rfl, rfl, by simp [close, hhandler, hcalls]⟩
    · right
      simp only [closeIfBoth, if_neg hboth]
      exact ⟨hq, hhandler, hcalls, hin, by simp [hout], hboth, hstate, hrequests⟩
  rw [step_of_registered hp]
  by_cases hevent : event.incomingSsn = true
  · rw [if_pos hevent]
    rcases resetIncoming_cases p outcome with h | ⟨requests, h, hrequests⟩
    · left
      show p.Finished (if _ then _ else _)
      rwa [if_neg (by simp [h.registered])]
    · rw [h]
      show p.Finished (if _ then _ else _) ∨ p.Waits event (if _ then _ else _)
      rw [if_pos hp]
      exact hend _ hp rfl rfl (by simp [hevent]) rfl (by simp [hevent]) (by simpa [hevent])
  · rw [if_neg hevent]
    show p.Finished (if _ then _ else _) ∨ p.Waits event (if _ then _ else _)
    rw [if_pos hp]
    exact hend p hp rfl rfl (by simp [hevent]) rfl (by simp [hevent]) fun _ => rfl

/-- A reset of one direction, then of the other one, in either order. -/
theorem step_step (hp : p.registered = true) {event event' : StreamResetEvent}
    (hin : event.incomingSsn = true ∨ event'.incomingSsn = true)
    (hout : event.outgoingSsn = true ∨ event'.outgoingSsn = true)
    (outcome outcome' : RequestOutcome) :
    p.Finished ((p.step event outcome).step event' outcome') := by
  rcases step_cases hp event outcome with h | h
  · rwa [step_of_not_registered h.registered]
  · rcases step_cases h.registered event' outcome' with h' | h'
    · refine ⟨h'.registered, h'.state, h'.closeCalls.trans ?_⟩
      simp [close, h.closeHandler, h.closeCalls]
    · -- both directions have been reset by now
      refine absurd ⟨?_, ?_⟩ h'.notBoth
      · rw [h'.incoming, h.incoming]
        rcases hin with hin | hin <;> simp [hin]
      · rw [h'.outgoing, h.outgoing]
        rcases hout with hout | hout <;> simp [hout]

end ResetProgress

/-! ## Section 2: The channels of a transport -/

/-- The event is a request to reset the outgoing stream of a channel. -/
def Event.isResetRequestOf (c : ChannelId) : Event → Bool
  | .resetStreams c' _ _ => c' = c
  | _ => false

/-- The event is that a request to reset the outgoing stream of a channel has failed. -/
def Event.isResetFailureOf (c : ChannelId) : Event → Bool
  | .resetStreams c' _ (some _) | .resetNoMemory c' => c' = c
  | _ => false

/-- The event is one that a reset of a channel's streams may give rise to. -/
def Event.isOfReset (c : ChannelId) : Event → Bool
  | .channelState c' _ | .handler (.closeHandler c') | .slotDeref c' => c' = c
  | .resetStreams c' _ _ | .resetNoMemory c' => c' = c
  | _ => false

/-- What happens to one channel is not counted for another one. -/
theorem Event.not_counted {c c' : ChannelId} (hne : c' ≠ c) {e : Event}
    (he : e.isOfReset c = true) : e ≠ .handler (.closeHandler c') ∧
      e.isResetRequestOf c' = false ∧ e.isResetFailureOf c' = false := by
  cases e with
  | resetStreams ch sid error =>
    obtain rfl : ch = c := by simpa [Event.isOfReset] using he
    have hch : ¬ ch = c' := fun h => hne h.symm
    cases error <;> simp [Event.isResetRequestOf, Event.isResetFailureOf, hch]
  | resetNoMemory ch =>
    obtain rfl : ch = c := by simpa [Event.isOfReset] using he
    exact ⟨nofun, rfl, decide_eq_false fun h => hne h.symm⟩
  | handler h =>
    refine ⟨?_, rfl, rfl⟩
    rintro heq
    cases heq
    exact hne (by simpa [Event.isOfReset] using he)
  | _ => exact ⟨nofun, rfl, rfl⟩

namespace Transport

/-- How far the channel in slot `i` has come with being reset. -/
def resetProgress (t : Transport) (i : Nat) (c : ChannelId) : ResetProgress where
  registered := t.channels i = some c
  state := (t.dataChannels c).state
  incoming := (t.dataChannels c).flags.incomingStreamReset
  outgoing := (t.dataChannels c).flags.outgoingStreamReset
  closeHandler := (t.dataChannels c).handlers.closeHandler
  closeCalls := t.history.count (.handler (.closeHandler c))
  requests := t.history.countP (·.isResetRequestOf c)
  failures := t.history.countP (·.isResetFailureOf c)

/-- Every registered channel has a context that knows its slot. -/
def SlotsKnown (t : Transport) : Prop :=
  ∀ ⦃i c⦄, t.channels i = some c →
    ∃ context, (t.dataChannels c).transportArg = some context ∧ context.sid = i

/-- A channel occupies at most one slot. -/
theorem SlotsKnown.unique {t : Transport} (h : t.SlotsKnown) {i j : Nat} {c : ChannelId}
    (hi : t.channels i = some c) (hj : t.channels j = some c) : i = j := by
  obtain ⟨context, hcontext, rfl⟩ := h hi
  obtain ⟨context', hcontext', rfl⟩ := h hj
  rw [hcontext] at hcontext'
  cases hcontext'
  rfl

/-- Between `s` and `s'` nothing but the channel `c` in slot `i` is touched. -/
structure Touches (c : ChannelId) (i : Nat) (s s' : Transport) : Prop where
  nChannels : s'.nChannels = s.nChannels
  slots : ∀ j, j ≠ i → s'.channels j = s.channels j
  slot : s'.channels i = s.channels i ∨ s'.channels i = none
  others : ∀ c', c' ≠ c → s'.dataChannels c' = s.dataChannels c'
  sid : (s'.dataChannels c).transportArg.map Context.sid =
    (s.dataChannels c).transportArg.map Context.sid
  history : ∃ events, s'.history = s.history ++ events ∧ ∀ e ∈ events, e.isOfReset c = true

namespace Touches

variable {c : ChannelId} {i : Nat} {s s' s'' : Transport}

theorem refl (c : ChannelId) (i : Nat) (s : Transport) : Touches c i s s :=
  ⟨rfl, fun _ _ => rfl, .inl rfl, fun _ _ => rfl, rfl, [], by simp, by simp⟩

theorem trans (h : Touches c i s s') (h' : Touches c i s' s'') : Touches c i s s'' where
  nChannels := h'.nChannels.trans h.nChannels
  slots j hj := (h'.slots j hj).trans (h.slots j hj)
  slot := by
    rcases h'.slot with hslot | hslot
    · rw [hslot]
      exact h.slot
    · exact .inr hslot
  others c' hc' := (h'.others c' hc').trans (h.others c' hc')
  sid := h'.sid.trans h.sid
  history := by
    obtain ⟨events, hevents, hof⟩ := h.history
    obtain ⟨events', hevents', hof'⟩ := h'.history
    refine ⟨events ++ events', by rw [hevents', hevents, List.append_assoc], ?_⟩
    intro e he
    rcases List.mem_append.mp he with he | he
    · exact hof e he
    · exact hof' e he

theorem log (s : Transport) {e : Event} (he : e.isOfReset c = true) : Touches c i s (s.log e) where
  nChannels := rfl
  slots _ _ := rfl
  slot := .inl rfl
  others _ _ := rfl
  sid := rfl
  history := ⟨[e], rfl, by simpa using he⟩

theorem modifyChannel (s : Transport) {f : DataChannel → DataChannel}
    (hf : ∀ ch, (f ch).transportArg.map Context.sid = ch.transportArg.map Context.sid) :
    Touches c i s (s.modifyChannel c f) where
  nChannels := rfl
  slots _ _ := rfl
  slot := .inl rfl
  others c' hc' := Function.update_of_ne hc' _ _
  sid := by
    simp only [Transport.modifyChannel, Function.update_self]
    exact hf _
  history := ⟨[], by simp [Transport.modifyChannel], by simp⟩

theorem clearSlot (s : Transport) : Touches c i s (s.setSlot i none) where
  nChannels := rfl
  slots j hj := Function.update_of_ne hj _ _
  slot := .inr (Function.update_self _ _ _)
  others _ _ := rfl
  sid := rfl
  history := ⟨[], by simp [Transport.setSlot], by simp⟩

/-- The slots keep being known. -/
theorem slotsKnown (h : Touches c i s s') (hs : s.SlotsKnown) (hi : s.channels i = some c) :
    s'.SlotsKnown := by
  intro j c' hj
  have hj' : s.channels j = some c' := by
    by_cases hji : j = i
    · subst hji
      rcases h.slot with hslot | hslot
      · rwa [hslot] at hj
      · rw [hslot] at hj
        cases hj
    · rwa [h.slots j hji] at hj
  obtain ⟨context, hcontext, hsid⟩ := hs hj'
  by_cases hc' : c' = c
  · subst hc'
    have hmap := h.sid
    rw [hcontext] at hmap
    obtain ⟨context', hcontext', hsid'⟩ := Option.map_eq_some_iff.mp hmap
    exact ⟨context', hcontext', hsid'.trans hsid⟩
  · rw [h.others c' hc']
    exact ⟨context, hcontext, hsid⟩

/-- The progress of the other channels. -/
theorem resetProgress (h : Touches c i s s') (hi : s.channels i = some c) {c' : ChannelId}
    (hc' : c' ≠ c) (j : Nat) : s'.resetProgress j c' = s.resetProgress j c' := by
  obtain ⟨events, hevents, hof⟩ := h.history
  -- none of the new events is counted for another channel
  have hcount : ∀ p : Event → Bool, (∀ e, e.isOfReset c = true → p e = false) →
      s'.history.countP p = s.history.countP p := by
    intro p hp
    rw [hevents, List.countP_append, Nat.add_eq_left, List.countP_eq_zero]
    intro e he
    simp [hp e (hof e he)]
  have hcalls : s'.history.count (.handler (.closeHandler c')) =
      s.history.count (.handler (.closeHandler c')) :=
    hcount _ fun e he => beq_eq_false_iff_ne.mpr (Event.not_counted hc' he).1
  have hrequests := hcount (·.isResetRequestOf c') fun e he => (Event.not_counted hc' he).2.1
  have hfailures := hcount (·.isResetFailureOf c') fun e he => (Event.not_counted hc' he).2.2
  have hregistered : s'.channels j = some c' ↔ s.channels j = some c' := by
    by_cases hj : j = i
    · subst hj
      have hother : s.channels j ≠ some c' := by
        rw [hi]
        exact fun heq => hc' (Option.some.inj heq).symm
      rcases h.slot with hslot | hslot
      · rw [hslot]
      · rw [hslot]
        exact iff_of_false nofun hother
    · rw [h.slots j hj]
  simp only [Transport.resetProgress, hregistered, h.others c' hc', hcalls, hrequests, hfailures]

end Touches

end Transport

/-! ## Section 3: What the code does -/

section Code

variable {answers : (o : Op) → Transport → o.Reply → Prop} {c : ChannelId} {i : Nat}
  {s : Transport} {event : StreamResetEvent}

/-- The channel is closed, and its close handler is called. -/
def Transport.closeChannel (s : Transport) (c : ChannelId) : Transport :=
  let closed := (s.modifyChannel c ({ · with state := .closed })).log (.channelState c .closed)
  if (s.dataChannels c).handlers.closeHandler then closed.log (.handler (.closeHandler c))
  else closed

/-- The channel is closed and removed from its slot. -/
def Transport.removeChannel (s : Transport) (c : ChannelId) (i : Nat) : Transport :=
  ((s.closeChannel c).setSlot i none).log (.slotDeref c)

theorem dataChannelSetState_closed_exact (s : Transport) :
    ((dataChannelSetState c .closed).run s).Always answers fun _ s' => s' = s.closeChannel c := by
  simp only [dataChannelSetState, Routine.run_bind, Routine.run_modify, run_logEvent,
    Routine.run_get, Prog.bind, Routine.run_ite, Transport.closeChannel]
  have hhandlers : (((s.modifyChannel c ({ · with state := .closed })).log
      (.channelState c .closed)).dataChannels c).handlers = (s.dataChannels c).handlers := by
    simp [Transport.log, Transport.modifyChannel]
  rw [hhandlers]
  split
  · exact fun _ _ => rfl
  · rfl

namespace Transport

theorem touches_closeChannel (s : Transport) : Touches c i s (s.closeChannel c) := by
  have hclosed : Touches c i s ((s.modifyChannel c ({ · with state := .closed })).log
      (.channelState c .closed)) :=
    (Touches.modifyChannel (f := ({ · with state := .closed })) s fun _ => rfl).trans
      (.log (c := c) (e := .channelState c .closed) _ (by simp [Event.isOfReset]))
  unfold closeChannel
  split
  · exact hclosed.trans (.log (e := .handler (.closeHandler c)) _ (by simp [Event.isOfReset]))
  · exact hclosed

theorem touches_removeChannel (s : Transport) : Touches c i s (s.removeChannel c i) := by
  apply (touches_closeChannel s).trans
  exact (Touches.clearSlot _).trans (.log (e := .slotDeref c) _ (by simp [Event.isOfReset]))

theorem resetProgress_removeChannel (s : Transport) :
    (s.removeChannel c i).resetProgress i c = (s.resetProgress i c).close := by
  cases hhandler : (s.dataChannels c).handlers.closeHandler <;>
    simp [removeChannel, closeChannel, resetProgress, ResetProgress.close, hhandler, log, setSlot,
      modifyChannel, Event.isResetRequestOf, Event.isResetFailureOf, List.count_append,
      List.countP_append]

theorem channels_removeChannel (s : Transport) : (s.removeChannel c i).channels i = none :=
  Function.update_self _ _ _

/-- A request to reset the outgoing stream is counted. -/
theorem resetProgress_log_request (s : Transport) (sid : Nat) (error : Option Failure) :
    (s.log (.resetStreams c sid error)).resetProgress i c = { s.resetProgress i c with
      requests := (s.resetProgress i c).requests + 1
      failures := (s.resetProgress i c).failures + if error.isSome then 1 else 0 } := by
  cases error <;> simp [resetProgress, log, Event.isResetRequestOf, Event.isResetFailureOf] <;> rfl

/-- A request that could not be made is counted. -/
theorem resetProgress_log_noMemory (s : Transport) :
    (s.log (.resetNoMemory c)).resetProgress i c = { s.resetProgress i c with
      failures := (s.resetProgress i c).failures + 1 } := by
  simp [resetProgress, log, Event.isResetRequestOf, Event.isResetFailureOf]
  rfl

theorem channels_closeChannel (s : Transport) : (s.closeChannel c).channels = s.channels := by
  unfold closeChannel
  split <;> rfl

theorem context_closeChannel (s : Transport) : (s.closeChannel c).context c = s.context c := by
  unfold closeChannel
  split <;> simp [context, log, modifyChannel]

end Transport

/-- Requesting a reset of the outgoing stream. -/
theorem requestStreamReset_exact (s : Transport) :
    ((requestStreamReset c).run s).Always answers fun r s' =>
      (r = .success ∧ s' = s.log (.resetStreams c (s.context c).sid none)) ∨
      (r ≠ .success ∧ ∃ error, s' = s.log (.resetStreams c (s.context c).sid (some error))) ∨
      r ≠ .success ∧ s' = s.log (.resetNoMemory c) := by
  simp only [requestStreamReset, Routine.run_bind, run_alloc, Prog.bind]
  intro ok _
  cases ok with
  | false => exact .inr (.inr ⟨Code.noConfusion, rfl⟩)
  | true =>
    simp only [if_true, Routine.run_bind, Routine.run_get, Prog.bind, run_usrsctpResetStreams]
    intro error _
    cases error with
    | none => exact .inl ⟨rfl, rfl⟩
    | some error => exact .inr (.inl ⟨error.property, error, rfl⟩)

/-- The end of `reset_outgoing_stream` if there was an error. -/
theorem closeImproperly_exact {error : Code} (herror : error ≠ .success)
    (hslot : s.channels (s.context c).sid = some c) :
    ((do
      dataChannelSetState c .closed
      if ← channelRegistered c then
        let t ← get
        clearSlot (t.context c).sid c
        return error
      else
        return .unknownError : M Code).run s).Always answers fun r s' =>
          r ≠ .success ∧ s' = s.removeChannel c (s.context c).sid := by
  simp only [Routine.run_bind, Prog.always_bind]
  apply Prog.Always.mono (dataChannelSetState_closed_exact s)
  rintro _ s₁ rfl
  have hslot' : (s.closeChannel c).channels ((s.closeChannel c).context c).sid = some c := by
    rw [s.channels_closeChannel, s.context_closeChannel, hslot]
  simp only [channelRegistered, Routine.run_bind, Routine.run_get, Prog.bind, Routine.run_ite,
    if_pos hslot', Routine.run_pure, if_true, run_clearSlot, Prog.always_ret]
  rw [s.context_closeChannel]
  exact ⟨herror, rfl⟩

/-- `reset_outgoing_stream` for a channel that has not begun to close. On success the channel is
    still to be set to closing. -/
theorem resetOutgoingStream_serves (hknown : s.SlotsKnown) (hi : s.channels i = some c) :
    ((resetOutgoingStream c).run s).Always answers fun r s' => Transport.Touches c i s s' ∧
      (r = .success ↔ s'.channels i = some c) ∧ ∃ outcome,
        (if r = .success then { s'.resetProgress i c with state := .closing }
          else s'.resetProgress i c) = (s.resetProgress i c).request outcome := by
  obtain ⟨context, hcontext, hsid⟩ := hknown hi
  have hsid' : (s.context c).sid = i := by simpa [Transport.context, hcontext] using hsid
  unfold resetOutgoingStream
  rw [Routine.run_bind, Routine.run_get, Prog.bind, Routine.run_ite]
  split
  · -- messages are waiting
    simp only [Routine.run_bind, Routine.run_modify, Prog.bind, Routine.run_pure, Prog.always_ret]
    refine ⟨?_, iff_of_true trivial hi, .postponed, ?_⟩
    · apply Transport.Touches.modifyChannel
      intro ch
      simp [Option.map_map, Function.comp_def, Context.setPendingStreamReset]
    · simp [ResetProgress.request, Transport.resetProgress, Transport.modifyContext,
        Transport.modifyChannel]
      rfl
  · rw [Routine.run_bind, Prog.always_bind]
    apply Prog.Always.mono (requestStreamReset_exact s)
    intro error s₁ h
    rw [Routine.run_ite]
    -- the channel is removed after a request that failed and was written down
    have hfailed : ∀ (e : Event) (outcome : RequestOutcome), e.isOfReset c = true →
        (s.resetProgress i c).request outcome = ((s.log e).resetProgress i c).close →
        error ≠ .success → ((do
          dataChannelSetState c .closed
          if ← channelRegistered c then
            let t ← get
            clearSlot (t.context c).sid c
            return error
          else
            return .unknownError : M Code).run (s.log e)).Always answers fun r s' =>
              Transport.Touches c i s s' ∧ (r = .success ↔ s'.channels i = some c) ∧ ∃ outcome,
                (if r = .success then { s'.resetProgress i c with state := .closing }
                  else s'.resetProgress i c) = (s.resetProgress i c).request outcome := by
      intro e outcome he heq herror
      have hslot : (s.log e).channels ((s.log e).context c).sid = some c := by
        show s.channels (s.context c).sid = some c
        rwa [hsid']
      apply Prog.Always.mono (closeImproperly_exact herror hslot)
      rintro r s₂ ⟨hr, rfl⟩
      rw [if_neg hr, show ((s.log e).context c).sid = i from hsid']
      have hremoved : ((s.log e).removeChannel c i).channels i = some c → r = .success := by
        rw [Transport.channels_removeChannel]
        intro hslot
        cases hslot
      have hprogress : ((s.log e).removeChannel c i).resetProgress i c =
          (s.resetProgress i c).request outcome := by
        rw [heq, Transport.resetProgress_removeChannel]
      exact ⟨(Transport.Touches.log s he).trans (Transport.touches_removeChannel _),
        ⟨fun h => absurd h hr, hremoved⟩, outcome, hprogress⟩
    rcases h with ⟨rfl, rfl⟩ | ⟨herror, e, rfl⟩ | ⟨herror, rfl⟩
    · rw [if_pos rfl]
      refine ⟨.log s (by simp [Event.isOfReset]), ⟨fun _ => hi, fun _ => rfl⟩, .accepted, ?_⟩
      rw [if_pos rfl, Transport.resetProgress_log_request]
      rfl
    · rw [if_neg herror]
      apply hfailed _ .refused (by simp [Event.isOfReset]) _ herror
      rw [Transport.resetProgress_log_request]
      rfl
    · rw [if_neg herror]
      apply hfailed _ .outOfMemory (by simp [Event.isOfReset]) _ herror
      rw [Transport.resetProgress_log_noMemory]
      rfl

/-- The part of the code for incoming resets. -/
theorem handleIncomingStreamReset_serves (hknown : s.SlotsKnown) (hi : s.channels i = some c) :
    ((handleIncomingStreamReset c).run s).Always answers fun closed s' =>
      Transport.Touches c i s s' ∧ (closed = false ↔ s'.channels i = some c) ∧
        ∃ outcome, s'.resetProgress i c = (s.resetProgress i c).resetIncoming outcome := by
  set s₁ := s.modifyChannel c fun ch =>
    { ch with flags := { ch.flags with incomingStreamReset := true } } with hs₁
  have htouches : Transport.Touches c i s s₁ := .modifyChannel s fun _ => rfl
  -- the flag for the incoming direction is set in any case
  have hprogress : s₁.resetProgress i c = { s.resetProgress i c with incoming := true } := by
    simp [hs₁, Transport.resetProgress, Transport.modifyChannel]
  have hopen : ((s₁.dataChannels c).state ≠ .closing ∧ (s₁.dataChannels c).state ≠ .closed) ↔
      (s.resetProgress i c).isOpen = true := by
    rw [ResetProgress.isOpen, decide_eq_true_iff]
    simp [hs₁, Transport.resetProgress, Transport.modifyChannel]
  have hi₁ : s₁.channels i = some c := hi
  simp only [handleIncomingStreamReset, Routine.run_bind, Routine.run_modify, Prog.bind,
    Routine.run_get, Routine.run_ite, ← hs₁, hopen, ResetProgress.resetIncoming]
  split
  · rw [Prog.always_bind]
    apply Prog.Always.mono (resetOutgoingStream_serves (htouches.slotsKnown hknown hi) hi₁)
    intro r s₂ h
    obtain ⟨htouches', hr, outcome, heq⟩ := h
    rw [hprogress] at heq
    -- the channel starts to close, unless its own stream could not be reset
    by_cases hsuccess : r = .success
    · have hset : ∀ s : Transport, Transport.Touches c i s
          ((s.modifyChannel c ({ · with state := .closing })).log (.channelState c .closing)) := by
        intro s
        exact (Transport.Touches.modifyChannel (f := ({ · with state := .closing })) s
          fun _ => rfl).trans (.log _ (by simp [Event.isOfReset]))
      rw [if_neg (not_not.mpr hsuccess), run_dataChannelSetState_closing]
      rw [if_pos hsuccess] at heq
      refine ⟨(htouches.trans htouches').trans (hset s₂), ?_, outcome, ?_⟩
      · exact ⟨fun _ => hr.mp hsuccess, fun _ => rfl⟩
      · rw [← heq]
        simp [Transport.resetProgress, Transport.log, Transport.modifyChannel,
          Event.isResetRequestOf, Event.isResetFailureOf]
        rfl
    · -- it has been closed and removed already
      rw [if_pos hsuccess]
      rw [if_neg hsuccess] at heq
      refine ⟨htouches.trans htouches', ?_, outcome, heq⟩
      exact iff_of_false (by decide) fun h => hsuccess (hr.mpr h)
  · exact ⟨htouches, ⟨fun _ => hi, fun _ => rfl⟩, .accepted, hprogress⟩

/-- The end of the loop body. -/
theorem closeIfBothReset_serves (hknown : s.SlotsKnown) (hi : s.channels i = some c) :
    ((closeIfBothReset c).run s).Always answers fun _ s' =>
      Transport.Touches c i s s' ∧ s'.resetProgress i c = (s.resetProgress i c).closeIfBoth := by
  obtain ⟨context, hcontext, hsid⟩ := hknown hi
  have hsid' : (s.context c).sid = i := by simpa [Transport.context, hcontext] using hsid
  simp only [closeIfBothReset, Routine.run_bind, Routine.run_get, Prog.bind, Routine.run_ite]
  split
  · -- closed and removed
    next hboth =>
    rw [Prog.always_bind]
    apply Prog.Always.mono (dataChannelSetState_closed_exact s)
    rintro _ s₁ rfl
    rw [run_clearSlot, s.context_closeChannel, hsid']
    refine ⟨Transport.touches_removeChannel s, ?_⟩
    have hboth' : (s.resetProgress i c).incoming = true ∧ (s.resetProgress i c).outgoing = true :=
      hboth
    rw [ResetProgress.closeIfBoth, if_pos hboth']
    exact Transport.resetProgress_removeChannel s
  · next hnot =>
    have hnot' : ¬ ((s.resetProgress i c).incoming = true ∧ (s.resetProgress i c).outgoing = true) :=
      hnot
    rw [ResetProgress.closeIfBoth, if_neg hnot']
    exact ⟨.refl c i s, rfl⟩

/-- What the loop body does for the channel in a slot. -/
structure ResetOf (event : StreamResetEvent) (i : Nat) (c : ChannelId) (s s' : Transport) : Prop
    where
  touches : Transport.Touches c i s s'
  progress : ∃ outcome, s'.resetProgress i c = (s.resetProgress i c).step event outcome

/-- The loop body behind the part for incoming resets. -/
theorem outgoingReset_serves (hknown : s.SlotsKnown) (hi : s.channels i = some c)
    (event : StreamResetEvent) :
    ((do
      if event.outgoingSsn then
        modify (·.modifyChannel c fun ch =>
          { ch with flags := { ch.flags with outgoingStreamReset := true } })
      closeIfBothReset c : M Unit).run s).Always answers fun _ s' =>
        Transport.Touches c i s s' ∧ s'.resetProgress i c = { s.resetProgress i c with
          outgoing := (s.resetProgress i c).outgoing || event.outgoingSsn }.closeIfBoth := by
  by_cases hout : event.outgoingSsn = true
  · set s₁ := s.modifyChannel c fun ch =>
      { ch with flags := { ch.flags with outgoingStreamReset := true } } with hs₁
    have htouches : Transport.Touches c i s s₁ := .modifyChannel s fun _ => rfl
    -- the flag for the outgoing direction is all that changes before the check
    have hprogress : s₁.resetProgress i c = { s.resetProgress i c with outgoing := true } := by
      simp [hs₁, Transport.resetProgress, Transport.modifyChannel]
    simp only [hout, Bool.or_true, ← hprogress]
    apply Prog.Always.mono (closeIfBothReset_serves (htouches.slotsKnown hknown hi) hi)
    intro _ s' h
    exact ⟨htouches.trans h.1, h.2⟩
  · simp only [hout, Bool.or_false]
    exact closeIfBothReset_serves hknown hi

/-- **The loop body** of `handle_stream_reset_event` serves the channel in the slot, if there is
    one. -/
theorem handleStreamReset_always (hknown : s.SlotsKnown) (event : StreamResetEvent) (i : Nat) :
    ((handleStreamReset event i).run s).Always answers fun _ s' =>
      (s.nChannels ≤ i ∨ s.channels i = none) ∧ s' = s ∨
      i < s.nChannels ∧ ∃ c, s.channels i = some c ∧ ResetOf event i c s s' := by
  simp only [handleStreamReset, Routine.run_bind, Routine.run_get, Prog.bind, Routine.run_ite]
  split
  · next hle => exact .inl ⟨.inl hle, rfl⟩
  · next hlt =>
    cases hslot : s.channels i with
    | none => exact .inl ⟨.inr rfl, rfl⟩
    | some c =>
      have hprogress : (s.resetProgress i c).registered = true := decide_eq_true hslot
      -- whoever is in the slot is the only one concerned
      suffices h : Prog.Always answers (fun _ s' => ResetOf event i c s s') _ from
        h.mono fun _ s' h => .inr ⟨not_le.mp hlt, c, rfl, h⟩
      by_cases hin : event.incomingSsn = true
      · simp only [if_pos hin]
        rw [Routine.run_bind, Prog.always_bind]
        apply Prog.Always.mono (handleIncomingStreamReset_serves hknown hslot)
        intro closed s₁ h
        obtain ⟨htouches, hclosed, outcome, heq⟩ := h
        have hstep : (s.resetProgress i c).step event outcome =
            if s₁.channels i = some c then
              { s₁.resetProgress i c with
                outgoing := (s₁.resetProgress i c).outgoing || event.outgoingSsn }.closeIfBoth
            else s₁.resetProgress i c := by
          rw [ResetProgress.step_of_registered hprogress, if_pos hin, ← heq]
          simp [Transport.resetProgress]
        cases closed with
        -- the channel is gone, and the rest of the loop body is skipped
        | true =>
          refine ⟨htouches, outcome, ?_⟩
          rw [hstep, if_neg fun h => by cases hclosed.mpr h]
        -- it is still there, so the other direction and the end of the body follow
        | false =>
          have hslot₁ := hclosed.mp rfl
          apply Prog.Always.mono
            (outgoingReset_serves (htouches.slotsKnown hknown hslot) hslot₁ event)
          intro _ s' h'
          refine ⟨htouches.trans h'.1, outcome, ?_⟩
          rw [hstep, if_pos hslot₁, h'.2]
      · simp only [if_neg hin]
        apply Prog.Always.mono (outgoingReset_serves hknown hslot event)
        intro _ s' h'
        refine ⟨h'.1, .accepted, ?_⟩
        rw [h'.2, ResetProgress.step_of_registered hprogress, if_neg hin]
        simp [hprogress]

/-! ## Section 4: Lists of resets -/

/-- The channel has been registered in slot `i`, now or before. -/
def Transport.BelongsTo (t : Transport) (c : ChannelId) (i : Nat) : Prop :=
  (t.dataChannels c).transportArg.map Context.sid = some i

theorem Transport.SlotsKnown.belongsTo (hknown : s.SlotsKnown) (hi : s.channels i = some c) :
    s.BelongsTo c i := by
  obtain ⟨context, hcontext, hsid⟩ := hknown hi
  simp [Transport.BelongsTo, hcontext, hsid]

/-- What resets of the streams in `listed` do to the channels of a transport. -/
structure Resets (listed : Nat → Prop) (s s' : Transport) : Prop where
  known : s'.SlotsKnown
  belongsTo : ∀ c i, s.BelongsTo c i → s'.BelongsTo c i
  steps : ∀ c i, s.BelongsTo c i → ResetProgress.Steps (s.resetProgress i c) (s'.resetProgress i c)
  unlisted : ∀ i, ¬ listed i → s'.channels i = s.channels i ∧
    ∀ c, s.channels i = some c → s'.dataChannels c = s.dataChannels c

variable {s' s'' : Transport} {listed : Nat → Prop}

theorem Resets.refl (hknown : s.SlotsKnown) : Resets listed s s :=
  ⟨hknown, fun _ _ h => h, fun _ _ _ => .refl, fun _ _ => ⟨rfl, fun _ _ => rfl⟩⟩

theorem Resets.trans (h : Resets listed s s') (h' : Resets listed s' s'') :
    Resets listed s s'' where
  known := h'.known
  belongsTo c i hc := h'.belongsTo c i (h.belongsTo c i hc)
  steps c i hc := (h.steps c i hc).trans (h'.steps c i (h.belongsTo c i hc))
  unlisted i hi := by
    obtain ⟨hslot, hchannel⟩ := h.unlisted i hi
    obtain ⟨hslot', hchannel'⟩ := h'.unlisted i hi
    refine ⟨hslot'.trans hslot, fun c hc => ?_⟩
    exact (hchannel' c (hslot.trans hc)).trans (hchannel c hc)

theorem Resets.mono {listed' : Nat → Prop} (h : Resets listed s s')
    (hlisted : ∀ i, listed i → listed' i) : Resets listed' s s' :=
  ⟨h.known, h.belongsTo, h.steps, fun i hi => h.unlisted i fun hl => hi (hlisted i hl)⟩

/-- The reset of one stream. -/
theorem ResetOf.resets (h : ResetOf event i c s s') (hknown : s.SlotsKnown)
    (hi : s.channels i = some c) : Resets (· = i) s s' where
  known := h.touches.slotsKnown hknown hi
  belongsTo c' j hc' := by
    unfold Transport.BelongsTo at hc' ⊢
    by_cases hcc' : c' = c
    · subst hcc'
      rw [h.touches.sid, hc']
    · rw [h.touches.others c' hcc', hc']
  steps c' j hc' := by
    by_cases hcc' : c' = c
    · subst hcc'
      have hbelongs := hknown.belongsTo hi
      unfold Transport.BelongsTo at hc' hbelongs
      rw [hbelongs] at hc'
      cases hc'
      obtain ⟨outcome, heq⟩ := h.progress
      exact .single ⟨event, outcome, heq⟩
    · rw [h.touches.resetProgress hi hcc' j]
  unlisted j hj := by
    refine ⟨h.touches.slots j hj, fun c' hc' => h.touches.others c' ?_⟩
    rintro rfl
    exact hj (hknown.unique hc' hi)

/-- The loop of `handle_stream_reset_event`. -/
theorem handleStreamResets_always (event : StreamResetEvent) (sids : List Nat) {s : Transport}
    (hknown : s.SlotsKnown) : ((handleStreamResets event sids).run s).Always answers fun _ s' =>
      Resets (· ∈ sids) s s' := by
  induction sids generalizing s with
  | nil => exact .refl hknown
  | cons sid sids ih =>
    rw [handleStreamResets, Routine.run_bind, Prog.always_bind]
    apply Prog.Always.mono (handleStreamReset_always hknown event sid)
    intro _ s₁ h
    have hfirst : Resets (· ∈ sid :: sids) s s₁ := by
      rcases h with ⟨-, rfl⟩ | ⟨-, c, hslot, hreset⟩
      · exact .refl hknown
      · apply (hreset.resets hknown hslot).mono
        rintro i rfl
        exact List.mem_cons_self
    apply Prog.Always.mono (ih hfirst.known)
    intro _ s' h'
    exact hfirst.trans (h'.mono fun i hi => List.mem_cons_of_mem _ hi)

/-- `handle_stream_reset_event`. -/
theorem handleStreamResetEvent_always (event : StreamResetEvent) (hknown : s.SlotsKnown) :
    ((handleStreamResetEvent event).run s).Always answers fun _ s' =>
      Resets (· ∈ event.strresetStreamList) s s' := by
  unfold handleStreamResetEvent
  split
  · exact .refl hknown
  · exact handleStreamResets_always event _ hknown

/-- Handle one event after the other. -/
def handleStreamResetEvents : List StreamResetEvent → M Unit
  | [] => return ()
  | event :: events => do
    handleStreamResetEvent event
    handleStreamResetEvents events

/-- One event after the other. -/
theorem handleStreamResetEvents_always (events : List StreamResetEvent) {s : Transport}
    (hknown : s.SlotsKnown) : ((handleStreamResetEvents events).run s).Always answers fun _ s' =>
      Resets (fun i => ∃ event ∈ events, i ∈ event.strresetStreamList) s s' := by
  induction events generalizing s with
  | nil => exact .refl hknown
  | cons event events ih =>
    rw [handleStreamResetEvents, Routine.run_bind, Prog.always_bind]
    apply Prog.Always.mono (handleStreamResetEvent_always event hknown)
    intro _ s₁ h
    apply Prog.Always.mono (ih h.known)
    intro _ s' h'
    have hfirst : Resets
        (fun i => ∃ e ∈ event :: events, i ∈ e.strresetStreamList) s s₁ :=
      h.mono fun i hi => ⟨event, List.mem_cons_self, hi⟩
    apply hfirst.trans
    apply h'.mono
    rintro i ⟨e, he, hi⟩
    exact ⟨e, List.mem_cons_of_mem _ he, hi⟩

/-! ## Section 5: Batches and orders -/

/-- The event for one of the stream ids only. -/
def StreamResetEvent.single (event : StreamResetEvent) (sid : Nat) : StreamResetEvent :=
  { event with strresetStreamList := [sid] }

theorem handleStreamResetEvent_single (event : StreamResetEvent) (sid : Nat) (t : Transport) :
    (handleStreamResetEvent (event.single sid)).run t =
      if event.denied ∨ event.failed then .ret () t else (handleStreamReset event sid).run t := by
  show (if event.denied ∨ event.failed then pure () else handleStreamResets (event.single sid)
    [sid]).run t = _
  rw [Routine.run_ite]
  congr 1
  show ((handleStreamReset event sid).run t).bind .ret = _
  rw [Prog.bind_ret]

/-- One event is as good as one for each of its stream ids. -/
theorem run_handleStreamResetEvents_single (event : StreamResetEvent) (t : Transport) :
    (handleStreamResetEvents (event.strresetStreamList.map event.single)).run t =
      (handleStreamResetEvent event).run t := by
  rw [handleStreamResetEvent, Routine.run_ite]
  generalize event.strresetStreamList = sids
  induction sids generalizing t with
  | nil =>
    split <;> rfl
  | cons sid sids ih =>
    rw [List.map_cons, handleStreamResetEvents, Routine.run_bind, handleStreamResetEvent_single]
    split
    · next hignored =>
      -- this event is ignored, and so are the others
      show (handleStreamResetEvents _).run t = _
      rw [ih, if_pos hignored]
    · next hignored =>
      rw [handleStreamResets, Routine.run_bind]
      congr 1
      funext _ t₁
      rw [ih, if_neg hignored]

/-- An event for one stream id. -/
theorem handleStreamResetEvent_single_always (hknown : s.SlotsKnown) (hlt : i < s.nChannels)
    (hbelongs : s.BelongsTo c i) (hslot : ∀ c', s.channels i = some c' → c' = c)
    (hevent : event.denied = false ∧ event.failed = false) :
    ((handleStreamResetEvent (event.single i)).run s).Always answers fun _ s' =>
      Transport.Touches c i s s' ∧ s'.SlotsKnown ∧ ∃ outcome,
        s'.resetProgress i c = (s.resetProgress i c).step event outcome := by
  have hheard : ¬ (event.denied = true ∨ event.failed = true) := by simp [hevent]
  rw [handleStreamResetEvent_single, if_neg hheard]
  apply Prog.Always.mono (handleStreamReset_always hknown event i)
  intro _ s' h
  rcases h with ⟨hnone, rfl⟩ | ⟨-, c', hc', hreset⟩
  · have hfree : s'.channels i = none := hnone.resolve_left (not_le.mpr hlt)
    have hgone : (s'.resetProgress i c).registered = false := by simp [Transport.resetProgress, hfree]
    refine ⟨.refl c i s', hknown, .accepted, ?_⟩
    rw [ResetProgress.step_of_not_registered hgone]
  · obtain rfl := hslot c' hc'
    exact ⟨hreset.touches, hreset.touches.slotsKnown hknown hc', hreset.progress⟩

/-- The event that a stream has been reset by the peer. -/
def StreamResetEvent.incomingOf (sid : Nat) : StreamResetEvent :=
  { incomingSsn := true, strresetStreamList := [sid] }

/-- The event that a stream has been reset on our request. -/
def StreamResetEvent.outgoingOf (sid : Nat) : StreamResetEvent :=
  { outgoingSsn := true, strresetStreamList := [sid] }

/-- How stream resets are handled in given surroundings, when no handler calls back. -/
structure ResetsStreams (answers : (o : Op) → Transport → o.Reply → Prop) (t : Transport) :
    Prop where
  /-- It does not matter how the ids are batched. -/
  batched : ∀ event, (handleStreamResetEvent event).run t =
    (handleStreamResetEvents (event.strresetStreamList.map event.single)).run t
  /-- A channel whose streams have both been reset is closed and removed, in either order, and its
      close handler is called once. -/
  bothDirections : ∀ i c, i < t.nChannels → t.channels i = some c → ∀ events,
    events = [.incomingOf i, .outgoingOf i] ∨ events = [.outgoingOf i, .incomingOf i] →
    ∀ r t', ((handleStreamResetEvents events).run t).Outcome answers r t' →
      t'.channels = Function.update t.channels i none ∧ (t'.dataChannels c).state = .closed ∧
      t'.history.count (.handler (.closeHandler c)) = t.history.count (.handler (.closeHandler c)) +
        if (t.dataChannels c).handlers.closeHandler then 1 else 0
  /-- Channels are removed for a reason: both streams have been reset, or the request for the own
      one has failed. -/
  removed : ∀ events r t', ((handleStreamResetEvents events).run t).Outcome answers r t' →
    ∀ i c, t.channels i = some c → t'.channels i ≠ some c →
      ((t'.dataChannels c).flags.incomingStreamReset = true ∧
        (t'.dataChannels c).flags.outgoingStreamReset = true) ∨
      t.history.countP (·.isResetFailureOf c) < t'.history.countP (·.isResetFailureOf c)
  /-- At most one request is made for each channel, and none for one that is closing already. -/
  requests : ∀ events r t', ((handleStreamResetEvents events).run t).Outcome answers r t' →
    ∀ i c, t.channels i = some c → t'.history.countP (·.isResetRequestOf c) ≤
      t.history.countP (·.isResetRequestOf c) +
        if (t.dataChannels c).state = .closing ∨ (t.dataChannels c).state = .closed then 0 else 1
  /-- Channels whose ids are not listed are left alone. -/
  unlisted : ∀ events r t', ((handleStreamResetEvents events).run t).Outcome answers r t' →
    ∀ i, (∀ event ∈ events, i ∉ event.strresetStreamList) → t'.channels i = t.channels i ∧
      ∀ c, t.channels i = some c → t'.dataChannels c = t.dataChannels c

/-- Two resets of a channel, one of each direction. -/
theorem bothDirections_always {t : Transport} (hknown : t.SlotsKnown) (hlt : i < t.nChannels)
    (hi : t.channels i = some c) (event event' : StreamResetEvent)
    (hevent : event.denied = false ∧ event.failed = false)
    (hevent' : event'.denied = false ∧ event'.failed = false)
    (hin : event.incomingSsn = true ∨ event'.incomingSsn = true)
    (hout : event.outgoingSsn = true ∨ event'.outgoingSsn = true) :
    ((handleStreamResetEvents [event.single i, event'.single i]).run t).Always answers fun _ t' =>
      t'.channels = Function.update t.channels i none ∧
        (t.resetProgress i c).Finished (t'.resetProgress i c) := by
  have hregistered : (t.resetProgress i c).registered = true := decide_eq_true hi
  rw [handleStreamResetEvents, Routine.run_bind, Prog.always_bind]
  apply Prog.Always.mono (handleStreamResetEvent_single_always hknown hlt (hknown.belongsTo hi)
    (fun c' hc' => Option.some.inj (hc'.symm.trans hi)) hevent)
  intro _ s₁ h
  obtain ⟨htouches, hknown₁, outcome, heq⟩ := h
  rw [handleStreamResetEvents, Routine.run_bind, Prog.always_bind]
  -- between the events the slot holds this channel or nobody
  have hslot : ∀ c', s₁.channels i = some c' → c' = c := by
    intro c' hc'
    rcases htouches.slot with hslot | hslot
    · rw [hslot, hi] at hc'
      exact (Option.some.inj hc').symm
    · rw [hslot] at hc'
      cases hc'
  apply Prog.Always.mono (handleStreamResetEvent_single_always hknown₁ (htouches.nChannels ▸ hlt)
    (htouches.sid.trans (hknown.belongsTo hi)) hslot hevent')
  intro _ t' h'
  obtain ⟨htouches', -, outcome', heq'⟩ := h'
  -- two steps in either order finish the channel
  have hfinished : (t.resetProgress i c).Finished (t'.resetProgress i c) := by
    rw [heq', heq]
    exact ResetProgress.step_step hregistered hin hout outcome outcome'
  refine ⟨?_, hfinished⟩
  have hboth := htouches.trans htouches'
  funext j
  by_cases hj : j = i
  · subst hj
    rw [Function.update_self]
    apply hboth.slot.resolve_left
    intro hsame
    have hgone : ¬ t'.channels j = some c := of_decide_eq_false hfinished.registered
    exact hgone (hsame.trans hi)
  · rw [Function.update_of_ne hj]
    exact hboth.slots j hj

/-- **Stream resets concern one channel at a time.** -/
theorem resetsStreams {t : Transport} (hknown : t.SlotsKnown) : ResetsStreams answers t where
  batched event := (run_handleStreamResetEvents_single event t).symm
  bothDirections i c hlt hi events hevents r t' hrun := by
    -- the order of the two events does not matter
    have hend : t'.channels = Function.update t.channels i none ∧
        (t.resetProgress i c).Finished (t'.resetProgress i c) := by
      rcases hevents with rfl | rfl
      · exact Prog.always_iff.mp (bothDirections_always hknown hlt hi (.incomingOf i) (.outgoingOf i)
          ⟨rfl, rfl⟩ ⟨rfl, rfl⟩ (.inl rfl) (.inr rfl)) r t' hrun
      · exact Prog.always_iff.mp (bothDirections_always hknown hlt hi (.outgoingOf i) (.incomingOf i)
          ⟨rfl, rfl⟩ ⟨rfl, rfl⟩ (.inr rfl) (.inl rfl)) r t' hrun
    refine ⟨hend.1, hend.2.state, hend.2.closeCalls.trans ?_⟩
    cases hhandler : (t.dataChannels c).handlers.closeHandler <;>
      simp [ResetProgress.close, Transport.resetProgress, hhandler]
  removed events r t' hrun i c hi hgone := by
    have h := Prog.always_iff.mp (handleStreamResetEvents_always events hknown) r t' hrun
    have hsteps := (h.steps c i (hknown.belongsTo hi)).advances
    exact hsteps.removed (decide_eq_true hi) (decide_eq_false hgone)
  requests events r t' hrun i c hi := by
    have h := Prog.always_iff.mp (handleStreamResetEvents_always events hknown) r t' hrun
    have hsteps := (h.steps c i (hknown.belongsTo hi)).advances
    -- each step makes at most one request, and only while the channel is open
    apply (Nat.le_add_right _ _).trans (hsteps.requests.trans _)
    apply Nat.add_le_add_left
    show (if decide ((t.dataChannels c).state ≠ .closing ∧ (t.dataChannels c).state ≠ .closed) = true
      then 1 else 0) ≤ _
    split
    · next hopen =>
      rw [if_neg (by simpa using hopen)]
    · exact Nat.zero_le _
  unlisted events r t' hrun i hi := by
    have h := Prog.always_iff.mp (handleStreamResetEvents_always events hknown) r t' hrun
    apply h.unlisted
    rintro ⟨event, hevent, hlisted⟩
    exact hi event hevent hlisted

end Code

/-- In every state between two calls the slots are known. -/
theorem RegistryConsistent.slotsKnown {t : Transport} (h : RegistryConsistent t) : t.SlotsKnown :=
  h.context

/-- A transport with an open channel in slot 0. -/
def Transport.withOpenChannel : Transport :=
  (Transport.setSlot { Transport.create false false false false 1200 with state := .connected } 0
    (some 0)).modifyChannel 0 fun ch =>
      { ch with state := .opened, transportArg := some {}, handlers := { closeHandler := true } }

theorem Transport.slotsKnown_withOpenChannel : Transport.withOpenChannel.SlotsKnown := by
  intro i c hi
  by_cases h : i = 0
  · subst h
    obtain rfl : 0 = c := Option.some.inj hi
    exact ⟨{}, rfl, rfl⟩
  · cases (Function.update_of_ne h _ _ : Transport.withOpenChannel.channels i = none).symm.trans hi

/-- A registry with one open channel. -/
theorem resetsStreams_withOpenChannel :
    ResetsStreams (fun _ _ _ => True) Transport.withOpenChannel :=
  resetsStreams Transport.slotsKnown_withOpenChannel

end RawrtcDataChannel
