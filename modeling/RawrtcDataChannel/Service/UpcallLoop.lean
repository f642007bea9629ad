import RawrtcDataChannel.Api
import RawrtcDataChannel.Reentrant.Part
import RawrtcDataChannel.Transfer.WholeRecords

/-!
# The event loop comes to an end

`upcall_handler_helper` handles the events of a socket until none is left but those it has been
told to ignore. Nothing counts its iterations. It ends because every iteration receives something,
or stops to listen to write events, and both happen only so often: a receive that fails because of
a pending error consumes the error, and a new one takes a send, which takes an item or a write
event.
-/

namespace RawrtcDataChannel

open Reentrant

/-! ## Section 1: The socket -/

/-- Data or a notification that waits to be received. -/
def InboundItem := { received : Received // ∀ wouldBlock, received ≠ .error wouldBlock }

/-- What a socket has to offer to its reader. -/
structure SctpSocket where
  items : List InboundItem
  /-- An error is pending. -/
  error : Bool

namespace SctpSocket

/-- `usrsctp_get_events`. The write event may be raised at any time. -/
def getEvents (socket : SctpSocket) (write : Bool) : EventMask where
  read := socket.error || !socket.items.isEmpty
  write := write
  error := socket.error

/-- `usrsctp_recvv`: the pending error, or else the next item. -/
def recvv (socket : SctpSocket) : Received × SctpSocket :=
  if socket.error then
    (.error false, { socket with error := false })
  else
    match socket.items with
    | [] => (.error true, socket)
    | item :: items => (item.val, { socket with items })

end SctpSocket

namespace EventMask

/-- `|=`. -/
def or (m m' : EventMask) : EventMask :=
  ⟨m.read || m'.read, m.write || m'.write, m.error || m'.error⟩

/-- `& ~`. -/
def without (m m' : EventMask) : EventMask :=
  ⟨m.read && !m'.read, m.write && !m'.write, m.error && !m'.error⟩

end EventMask

/-! ## Section 2: The loop -/

/-- A transport and its socket. -/
structure Serviced where
  transport : Transport
  socket : SctpSocket

/-- The transport, as a part of both. -/
def servicedTransport : Part Serviced Transport where
  get s := s.transport
  put s t := { s with transport := t }

/-- Routines on a transport and its socket. -/
abbrev ServiceM := Routine Op Op.Reply Serviced

/-- Run the code of the transport, which does not see the socket. -/
def onServiced {α : Type} (m : M α) : ServiceM α :=
  m.onPart servicedTransport ⟨id, fun _ r => r⟩

/-- The state of the loop in front of its condition. -/
structure LoopState where
  serviced : Serviced
  events : EventMask
  ignoreEvents : EventMask

/-- The loop is entered with the events the socket has, and ignores none of them. -/
def LoopState.enter (s : Serviced) (write : Bool) : LoopState :=
  ⟨s, s.socket.getEvents write, .none⟩

section Loop

variable [MessageBuffer]

/-- `read_event_handler` with its call of `usrsctp_recvv`, which comes behind an allocation. Here
    allocations succeed, and so it is reached whenever the transport is not detached. -/
def servicedReadEventHandler : ServiceM EventMask := do
  let s ← get
  if s.transport.flags.detached then
    return .all
  else
    modify fun s => { s with socket := s.socket.recvv.2 }
    onServiced (readEventHandler s.socket.recvv.1)

/-- Call a handler if its event is raised, and add the events it does not want to `ignore_events`. -/
def handleEvent (raised : Bool) (handler : ServiceM EventMask) (ignoreEvents : EventMask) :
    ServiceM EventMask :=
  if raised then ignoreEvents.or <$> handler else pure ignoreEvents

/-- The loop body of `upcall_handler_helper`, up to the next call of `usrsctp_get_events`. It
    returns the events to ignore. -/
def upcallLoopBody (events ignoreEvents : EventMask) : ServiceM EventMask := do
  let ignoreEvents ← handleEvent events.error (onServiced errorEventHandler) ignoreEvents
  let ignoreEvents ← handleEvent events.read servicedReadEventHandler ignoreEvents
  handleEvent events.write (onServiced writeEventHandler) ignoreEvents

/-- What usrsctp and the application do while the loop runs: memory is there, and everything else
    may change the transport and leave an error on the socket, but it brings no new items. -/
def SocketWorld : (o : Op) → Serviced → o.Reply → Serviced → Prop
  | .alloc, s, ok, s' => ok = true ∧ s' = s
  | .allocSendContext, s, ok, s' => ok = true ∧ s' = s
  | _, s, _, s' => s'.socket.items = s.socket.items

/-- An iteration of the `while` loop of `upcall_handler_helper`. -/
inductive Iteration : LoopState → LoopState → Prop where
  | mk (l : LoopState) (ignoreEvents : EventMask) (s : Serviced) (write : Bool) :
      l.events ≠ .none →
      ((upcallLoopBody l.events l.ignoreEvents).run l.serviced).OutcomeIn SocketWorld
        ignoreEvents s →
      Iteration l ⟨s, (s.socket.getEvents write).without ignoreEvents, ignoreEvents⟩

/-- A number of iterations. -/
inductive Iterations : Nat → LoopState → LoopState → Prop where
  | refl (l : LoopState) : Iterations 0 l l
  | tail {n : Nat} {l l' l'' : LoopState} :
      Iterations n l l' → Iteration l' l'' → Iterations (n + 1) l l''

/-- The loop is left after `bound` iterations at most: no more are possible, and it does not get
    stuck before there are no events left. -/
def LeftWithin (bound : Nat) (l₀ : LoopState) : Prop :=
  ∀ n l, Iterations n l₀ l → n ≤ bound ∧ (l.events = .none ∨ ∃ l', Iteration l l')

/-! ## Section 3: The handlers -/

omit [MessageBuffer] in
theorem SocketWorld.items {o : Op} {s s' : Serviced} {r : o.Reply} (h : SocketWorld o s r s') :
    s'.socket.items = s.socket.items := by
  cases o with
  | alloc | allocSendContext => rw [h.2]
  | _ => exact h

omit [MessageBuffer] in
/-- Surroundings that do nothing but answer. -/
theorem exists_socketWorld (o : Op) (s : Serviced) : ∃ r s', SocketWorld o s r s' := by
  refine ⟨obligingOracle o s.transport, s, ?_⟩
  cases o <;> first | exact ⟨rfl, rfl⟩ | rfl

omit [MessageBuffer] in
/-- The code of the transport receives nothing by itself. -/
theorem onServiced_items {α : Type} (m : M α) (s : Serviced) :
    ((onServiced m).run s).AlwaysIn SocketWorld fun _ s' =>
      s'.socket.items = s.socket.items := by
  show ((m.run s.transport).onPart _ _ s).AlwaysIn _ _
  generalize m.run s.transport = p
  induction p generalizing s with
  | ret a t => rfl
  | out o t k ih =>
    intro r s' hr
    apply (ih _ s'.transport s').mono
    intro _ s'' hs''
    exact hs''.trans hr.items

/-- `read_event_handler` when the receive fails. -/
theorem readEventHandler_error (wouldBlock : Bool) {s : Serviced}
    (hattached : s.transport.flags.detached = false) :
    ((onServiced (readEventHandler (.error wouldBlock))).run s).AlwaysIn SocketWorld
      fun r s' => r = { read := wouldBlock } ∧ s' = s := by
  have hrunning : ¬ s.transport.flags.detached = true := by simp [hattached]
  show (((readEventHandler (.error wouldBlock)).run s.transport).onPart _ _ s).AlwaysIn _ _
  simp only [readEventHandler, Routine.run_bind, Routine.run_get, Prog.bind, Routine.run_ite,
    if_neg hrunning, run_alloc]
  rintro ok s' ⟨rfl, rfl⟩
  exact ⟨rfl, rfl⟩

/-- `read_event_handler` goes on listening to everything when it has received something. -/
theorem readEventHandler_item (item : InboundItem) {t : Transport}
    (hattached : t.flags.detached = false) :
    ((readEventHandler item.val).run t).Returns (· = EventMask.none) := by
  have hrunning : ¬ t.flags.detached = true := by simp [hattached]
  obtain ⟨received, hitem⟩ := item
  cases received with
  | error wouldBlock => exact absurd rfl (hitem wouldBlock)
  | notification snLength end_ notification =>
    simp only [readEventHandler, Routine.run_bind, Routine.run_get, Prog.bind, Routine.run_ite,
      if_neg hrunning, run_alloc]
    intro ok t'
    dsimp only
    split
    · exact Prog.returns_bind _ fun _ _ => rfl
    · rfl
  | data bytes info eor =>
    simp only [readEventHandler, Routine.run_bind, Routine.run_get, Prog.bind, Routine.run_ite,
      if_neg hrunning, run_alloc]
    intro ok t'
    dsimp only
    split
    · split
      · rfl
      · cases info with
        | none => rfl
        | some info => exact Prog.returns_bind _ fun _ _ => rfl
    · rfl

/-- `write_event_handler` ignores write events from now on, if not all events. -/
theorem writeEventHandler_returns (t : Transport) :
    (writeEventHandler.run t).Returns fun r => r = .all ∨ r = { write := true } := by
  simp only [writeEventHandler, Routine.run_bind, Routine.run_get, Prog.bind, Routine.run_ite]
  split
  · exact .inl rfl
  split
  · exact .inr rfl
  · exact Prog.returns_bind _ fun _ _ => Prog.returns_bind _ fun _ _ => Or.inr rfl

/-- On a closed transport `write_event_handler` sends nothing. -/
theorem writeEventHandler_closed {s : Serviced} (hclosed : s.transport.state = .closed) :
    ((onServiced writeEventHandler).run s).AlwaysIn SocketWorld fun _ s' =>
      s'.transport.state = .closed ∧ s'.socket = s.socket := by
  show ((writeEventHandler.run s.transport).onPart _ _ s).AlwaysIn _ _
  simp only [writeEventHandler, Routine.run_bind, Routine.run_get, Prog.bind, Routine.run_ite]
  split
  · exact ⟨hclosed, rfl⟩
  split
  · exact ⟨hclosed, rfl⟩
  · have hoffline : s.transport.state ≠ .connected := by simp [hclosed]
    simp only [sctpSendDeferredMessages, Routine.run_bind, Routine.run_modify, Routine.run_get,
      Prog.bind, clear_drops _ { s.transport with
        flags := { s.transport.flags with sendingInProgress := true } } hoffline]
    exact ⟨hclosed, rfl⟩

/-! ## Section 4: One iteration -/

/-- How much is left to do: an item or a write event may bring one more error each. -/
def potential (ignoreEvents : EventMask) (s : Serviced) : Nat :=
  2 * (s.socket.items.length + if ignoreEvents.write then 0 else 1) +
    if s.socket.error then 1 else 0

/-- Read events are ignored only if nothing will have to be read any more: there is no error, and
    a closed transport does not send, which could make one. -/
structure Attentive (ignoreEvents : EventMask) (s : Serviced) : Prop where
  read : ignoreEvents.read = true → s.transport.state = .closed ∧ s.socket.error = false
  error : ignoreEvents.error = false

/-- All events are ignored, or the loop is attentive. -/
def LoopInv (ignoreEvents : EventMask) (s : Serviced) : Prop :=
  ignoreEvents = .all ∨ Attentive ignoreEvents s

/-- What the loop body has achieved in front of its write event. -/
structure ReadDone (events ignoreEvents : EventMask) (s : Serviced) (ignoreEvents' : EventMask)
    (s' : Serviced) : Prop where
  attentive : Attentive ignoreEvents' s'
  write : ignoreEvents'.write = ignoreEvents.write
  items : s'.socket.items.length ≤ s.socket.items.length
  progress : events.read = true → potential ignoreEvents' s' < potential ignoreEvents s
  same : events.read = false → s' = s

section Masks

variable (m : EventMask)

omit [MessageBuffer] in
@[simp] theorem EventMask.or_none : m.or .none = m := by
  simp [EventMask.or, EventMask.none]

omit [MessageBuffer] in
@[simp] theorem EventMask.or_all : m.or .all = .all := by
  simp [EventMask.or, EventMask.all]

omit [MessageBuffer] in
@[simp] theorem EventMask.all_or : EventMask.all.or m = .all := by
  simp [EventMask.or, EventMask.all]

omit [MessageBuffer] in
@[simp] theorem EventMask.without_all : m.without .all = .none := by
  simp [EventMask.without, EventMask.all, EventMask.none]

end Masks

/-- What the loop ignores behind its error handler. -/
def ignoredByError (events ignoreEvents : EventMask) (s : Serviced) : EventMask :=
  if events.error = true ∧ s.transport.state = .closed then ignoreEvents.or { read := true }
  else ignoreEvents

omit [MessageBuffer] in
theorem run_handleError (events ignoreEvents : EventMask) (s : Serviced) :
    (handleEvent events.error (onServiced errorEventHandler) ignoreEvents).run s =
      .ret (ignoredByError events ignoreEvents s) s := by
  unfold handleEvent ignoredByError
  by_cases herror : events.error = true
  · have hrun : (onServiced errorEventHandler).run s =
        .ret (if s.transport.state = .closed then { read := true } else .none) s := by
      show (errorEventHandler.run s.transport).onPart _ _ s = _
      simp only [errorEventHandler, Routine.run_bind, Routine.run_get, Prog.bind, Routine.run_ite]
      split <;> rfl
    simp only [herror, if_true, Routine.run_map, hrun, Prog.bind, true_and]
    split
    · rfl
    · rw [EventMask.or_none]
  · simp [herror]

section Body

variable {m : EventMask} {s : Serviced} {write : Bool}

/-- Error and read events. -/
theorem handleRead_always (hinv : LoopInv m s)
    (hraised : (s.socket.getEvents write).without m ≠ .none) :
    ((handleEvent ((s.socket.getEvents write).without m).read servicedReadEventHandler
      (ignoredByError ((s.socket.getEvents write).without m) m s)).run s).AlwaysIn SocketWorld
      fun m' s' => m' = .all ∨ ReadDone ((s.socket.getEvents write).without m) m s m' s' := by
  have hattentive : Attentive m s := by
    refine hinv.resolve_left fun hall => hraised ?_
    rw [hall, EventMask.without_all]
  -- `events` is what has been raised and is not ignored
  generalize hevents : (s.socket.getEvents write).without m = events at hraised ⊢
  have hread : events.read = true ↔ (s.socket.error = true ∨ s.socket.items ≠ []) ∧ m.read = false := by
    rw [← hevents]
    simp [EventMask.without, SctpSocket.getEvents]
  have herror : events.error = s.socket.error := by
    rw [← hevents]
    simp [EventMask.without, SctpSocket.getEvents, hattentive.error]
  have hwrite : (ignoredByError events m s).write = m.write := by
    unfold ignoredByError
    split <;> simp [EventMask.or]
  have hnoerror : (ignoredByError events m s).error = false := by
    unfold ignoredByError
    split <;> simp [EventMask.or, hattentive.error]
  unfold handleEvent
  by_cases hraisedRead : events.read = true
  · obtain ⟨hpending, hunmasked⟩ := hread.mp hraisedRead
    simp only [hraisedRead, if_true, Routine.run_map, Prog.alwaysIn_bind]
    by_cases hdetached : s.transport.flags.detached = true
    · -- a detached transport ignores everything
      simp only [servicedReadEventHandler, Routine.run_bind, Routine.run_get, Prog.bind,
        Routine.run_ite, if_pos hdetached]
      exact .inl (EventMask.or_all _)
    · have hattached : s.transport.flags.detached = false := by simpa using hdetached
      simp only [servicedReadEventHandler, Routine.run_bind, Routine.run_get, Prog.bind,
        Routine.run_ite, if_neg hdetached, Routine.run_modify]
      by_cases hpendingError : s.socket.error = true
      · -- the pending error is consumed
        have hrecv : s.socket.recvv = (.error false, { s.socket with error := false }) := by
          simp [SctpSocket.recvv, hpendingError]
        rw [hrecv]
        apply (readEventHandler_error false (s := { s with socket := { s.socket with error := false } })
          hattached).mono
        rintro ignored s' ⟨rfl, rfl⟩
        refine .inr ?_
        have hnone : (ignoredByError events m s).or { read := false } = ignoredByError events m s :=
          EventMask.or_none _
        show ReadDone events m s ((ignoredByError events m s).or { read := false }) _
        rw [hnone]
        refine ⟨⟨fun hignored => ⟨?_, rfl⟩, hnoerror⟩, hwrite, le_refl _, fun _ => ?_, ?_⟩
        · by_contra hopen
          have hsame : ignoredByError events m s = m := if_neg fun h => hopen h.2
          exact absurd (hunmasked.symm.trans (hsame ▸ hignored)) (by decide)
        · simp [potential, hwrite, hpendingError]
        · exact fun h => absurd (hraisedRead.symm.trans h) (by decide)
      · -- the next item is received
        have hquiet : s.socket.error = false := by simpa using hpendingError
        obtain ⟨item, items, hitems⟩ :=
          List.exists_cons_of_ne_nil (hpending.resolve_left hpendingError)
        have hrecv : s.socket.recvv = (item.val, { s.socket with items := items }) := by
          simp [SctpSocket.recvv, hquiet, hitems]
        have hsame : ignoredByError events m s = m :=
          if_neg fun h => absurd (hquiet.symm.trans (herror.symm.trans h.1)) (by decide)
        rw [hrecv, hsame]
        apply ((onServiced_items (readEventHandler item.val)
          { s with socket := { s.socket with items := items } }).and
          ((readEventHandler_item item hattached).onPart _ _ _)).mono
        rintro ignored s' ⟨hleft, rfl⟩
        refine .inr ?_
        show ReadDone events m s (m.or .none) s'
        rw [EventMask.or_none]
        have hleft' : s'.socket.items = items := hleft
        refine ⟨⟨?_, hattentive.error⟩, rfl, ?_, fun _ => ?_, ?_⟩
        · exact fun hignored => absurd (hunmasked.symm.trans hignored) (by decide)
        · rw [hleft', hitems, List.length_cons]
          exact Nat.le_succ _
        · have hnew : (if s'.socket.error then 1 else 0) ≤ 1 := by split <;> decide
          simp only [potential, hleft', hitems, hquiet, List.length_cons]
          omega
        · exact fun h => absurd (hraisedRead.symm.trans h) (by decide)
  · -- there is nothing to read, or it is ignored
    have hnotRaised : events.read = false := by simpa using hraisedRead
    simp only [hnotRaised, if_neg (by decide : ¬ false = true), Routine.run_pure]
    refine .inr ⟨⟨fun hignored => ?_, hnoerror⟩, hwrite, le_refl _, ?_, fun _ => rfl⟩
    · cases hmasked : m.read with
      | true => exact hattentive.read hmasked
      | false =>
        have hidle : s.socket.error = false := by
          by_contra h
          exact hraisedRead (hread.mpr ⟨.inl (by simpa using h), hmasked⟩)
        have hsame : ignoredByError events m s = m :=
          if_neg fun h => absurd (hidle.symm.trans (herror.symm.trans h.1)) (by decide)
        exact absurd (hmasked.symm.trans (hsame ▸ hignored)) (by decide)
    · exact fun h => absurd (hnotRaised.symm.trans h) (by decide)

/-- Write events, behind what was read. -/
theorem handleWrite_always {m' : EventMask} {s' : Serviced} {events : EventMask}
    (hwrite : events.write = true → m.write = false)
    (hraised : events.read = true ∨ events.write = true) (h : ReadDone events m s m' s') :
    ((handleEvent events.write (onServiced writeEventHandler) m').run s').AlwaysIn SocketWorld
      fun m'' s'' => m'' = .all ∨ Attentive m'' s'' ∧ potential m'' s'' < potential m s := by
  unfold handleEvent
  by_cases hraisedWrite : events.write = true
  · simp only [hraisedWrite, if_true, Routine.run_map, Prog.alwaysIn_bind]
    have hlistens := hwrite hraisedWrite
    have hreturns : ((onServiced writeEventHandler).run s').AlwaysIn SocketWorld fun ignored _ =>
        ignored = .all ∨ ignored = { write := true } :=
      (writeEventHandler_returns s'.transport).onPart _ _ s'
    have hitems := onServiced_items writeEventHandler s'
    by_cases hclosed : s'.transport.state = .closed
    · apply ((writeEventHandler_closed hclosed).and (hitems.and hreturns)).mono
      rintro ignored s'' ⟨⟨hclosed'', hsocket⟩, hleft, rfl | rfl⟩
      · exact .inl (EventMask.or_all _)
      · refine .inr ⟨⟨fun hignored => ⟨hclosed'', ?_⟩, ?_⟩, ?_⟩
        · rw [hsocket]
          exact (h.attentive.read (by simpa [EventMask.or] using hignored)).2
        · simpa [EventMask.or] using h.attentive.error
        · have hnew : (if s''.socket.error then 1 else 0) ≤ 1 := by split <;> decide
          have hless := h.items
          simp only [potential, EventMask.or, hleft, hlistens, Bool.or_true, if_true]
          simp only [Bool.false_eq_true, if_false]
          omega
    · apply (hitems.and hreturns).mono
      rintro ignored s'' ⟨hleft, rfl | rfl⟩
      · exact .inl (EventMask.or_all _)
      · refine .inr ⟨⟨fun hignored => ?_, ?_⟩, ?_⟩
        · have hread := h.attentive.read (by simpa [EventMask.or] using hignored)
          exact absurd hread.1 hclosed
        · simpa [EventMask.or] using h.attentive.error
        · have hnew : (if s''.socket.error then 1 else 0) ≤ 1 := by split <;> decide
          have hless := h.items
          simp only [potential, EventMask.or, hleft, hlistens, Bool.or_true, if_true]
          simp only [Bool.false_eq_true, if_false]
          omega
  · have hnotRaised : events.write = false := by simpa using hraisedWrite
    simp only [hnotRaised, if_neg (by decide : ¬ false = true), Routine.run_pure]
    exact .inr ⟨h.attentive, h.progress (hraised.resolve_right hraisedWrite)⟩

/-- An iteration makes the loop ignore all events, or less is left to do. -/
theorem upcallLoopBody_always (hinv : LoopInv m s)
    (hraised : (s.socket.getEvents write).without m ≠ .none) :
    ((upcallLoopBody ((s.socket.getEvents write).without m) m).run s).AlwaysIn SocketWorld
      fun m' s' => m' = .all ∨ Attentive m' s' ∧ potential m' s' < potential m s := by
  have hattentive : Attentive m s := by
    refine hinv.resolve_left fun hall => hraised ?_
    rw [hall, EventMask.without_all]
  have hwrite : ((s.socket.getEvents write).without m).write = true → m.write = false := by
    simp [EventMask.without, SctpSocket.getEvents]
  -- an error is never alone: where it is raised there is something to be read
  have hsome : ((s.socket.getEvents write).without m).read = true ∨
      ((s.socket.getEvents write).without m).write = true := by
    by_contra hnone
    push Not at hnone
    refine hraised ?_
    have hread : ((s.socket.getEvents write).without m).read = false := by simpa using hnone.1
    have hnowrite : ((s.socket.getEvents write).without m).write = false := by simpa using hnone.2
    have herror : ((s.socket.getEvents write).without m).error = false := by
      cases hpending : s.socket.error with
      | false => simp [EventMask.without, SctpSocket.getEvents, hpending]
      | true =>
        cases hmasked : m.read with
        | true => exact absurd (hpending.symm.trans (hattentive.read hmasked).2) (by decide)
        | false => simp [EventMask.without, SctpSocket.getEvents, hpending, hmasked] at hread
    generalize (s.socket.getEvents write).without m = events at hread hnowrite herror
    cases events
    simp_all [EventMask.none]
  simp only [upcallLoopBody, Routine.run_bind, run_handleError, Prog.bind, Prog.alwaysIn_bind]
  apply (handleRead_always hinv hraised).mono
  rintro m' s' (rfl | hdone)
  · -- nothing takes an event back
    have hall : ∀ (handler : ServiceM EventMask) (raised : Bool),
        ((handleEvent raised handler .all).run s').AlwaysIn SocketWorld fun m'' _ => m'' = .all := by
      intro handler raised
      cases raised with
      | false => rfl
      | true =>
        simp only [handleEvent, if_true, Routine.run_map, Prog.alwaysIn_bind]
        generalize handler.run s' = p
        induction p with
        | ret ignored s'' => exact EventMask.all_or ignored
        | out o s'' k ih => exact fun r s₁ _ => ih r s₁
    exact (hall _ _).mono fun _ _ h => .inl h
  · exact handleWrite_always hwrite hsome hdone

end Body

/-! ## Section 5: The whole loop -/

/-- The invariant of the loop: how its variables belong together. -/
structure LoopState.Consistent (l : LoopState) : Prop where
  inv : LoopInv l.ignoreEvents l.serviced
  events : ∃ write, l.events = (l.serviced.socket.getEvents write).without l.ignoreEvents

omit [MessageBuffer] in
theorem consistent_enter (s : Serviced) (write : Bool) : (LoopState.enter s write).Consistent := by
  refine ⟨.inr ⟨(fun h => by cases h), rfl⟩, write, ?_⟩
  simp [LoopState.enter, EventMask.without, EventMask.none]

/-- What is left to do in a state of the loop; none if it is about to be left. -/
def LoopState.measure (l : LoopState) : Nat :=
  if l.events = .none then 0 else potential l.ignoreEvents l.serviced + 1

theorem Iteration.step {l l' : LoopState} (h : l.Consistent) (hstep : Iteration l l') :
    l'.Consistent ∧ l'.measure < l.measure := by
  obtain ⟨write, hevents⟩ := h.events
  cases hstep with
  | mk m' s' write' hraised hbody =>
    rw [hevents] at hraised hbody
    have hleft : 0 < l.measure := by
      simp only [LoopState.measure, hevents, if_neg hraised]
      exact Nat.succ_pos _
    rcases (upcallLoopBody_always h.inv hraised).outcome hbody with rfl | ⟨hattentive, hless⟩
    · refine ⟨⟨.inl rfl, write', rfl⟩, ?_⟩
      simpa [LoopState.measure] using hleft
    · refine ⟨⟨.inr hattentive, write', rfl⟩, ?_⟩
      simp only [LoopState.measure, hevents, if_neg hraised]
      split
      · exact Nat.succ_pos _
      · omega

theorem Iterations.measure_le {n : Nat} {l l' : LoopState} (h : l.Consistent)
    (hrun : Iterations n l l') : l'.Consistent ∧ n + l'.measure ≤ l.measure := by
  induction hrun with
  | refl => exact ⟨h, by omega⟩
  | tail _ hstep ih =>
    obtain ⟨hconsistent, hle⟩ := ih h
    obtain ⟨hconsistent', hlt⟩ := hstep.step hconsistent
    exact ⟨hconsistent', by omega⟩

/-- **The loop is left.** Whatever the transport is, whatever waits on its socket and whatever
    usrsctp and the application do meanwhile, it takes two iterations for each item, and four. -/
theorem upcallHandlerHelper_left (s : Serviced) (write : Bool) :
    LeftWithin (2 * s.socket.items.length + 4) (.enter s write) := by
  intro n l hrun
  constructor
  · obtain ⟨-, hle⟩ := hrun.measure_le (consistent_enter s write)
    have hmeasure : (LoopState.enter s write).measure ≤ 2 * s.socket.items.length + 4 := by
      have herror : (if s.socket.error then 1 else 0) ≤ 1 := by split <;> decide
      have hwrite : (LoopState.enter s write).ignoreEvents.write = false := rfl
      have hsame : (LoopState.enter s write).serviced = s := rfl
      unfold LoopState.measure potential
      rw [hwrite, hsame]
      split
      · exact Nat.zero_le _
      · simp only [Bool.false_eq_true, if_false]
        omega
    omega
  · by_cases hnone : l.events = .none
    · exact .inl hnone
    · obtain ⟨m', s', hbody⟩ := Prog.exists_outcomeIn exists_socketWorld
        ((upcallLoopBody l.events l.ignoreEvents).run l.serviced)
      exact .inr ⟨_, .mk l m' s' write hnone hbody⟩

omit [MessageBuffer] in
/-- A byte waits on the socket of a new transport, and an error is pending. -/
theorem upcallHandlerHelper_left_pending :
    @LeftWithin listMessageBuffer 6 (.enter
      { transport := .create false false false false 1200
        socket := { items := [⟨.data [0] none true, by simp⟩], error := true } } true) :=
  @upcallHandlerHelper_left listMessageBuffer _ true

end Loop

end RawrtcDataChannel
