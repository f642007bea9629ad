import RawrtcDataChannel.Lifecycle.Main

/-!
# The transport's life moves forward

The states of the transport, as they are set and as they are reported, only move forward, and the
transport lets go of its surroundings only once. This is so for every run in which handlers may
stop the transport, except that two handlers must not: the state change handler while `start`
reports that the transport is connecting, and the open handlers that the transition to connected
calls. Both `start` and the transition go on afterwards as if the transport were still running.
-/

namespace RawrtcDataChannel

open Reentrant

/-! ## Section 1: Reading the history -/

/-- The state an event says the transport has entered. -/
def Event.transportState? : Event → Option TransportState
  | .transportState s => some s
  | _ => none

/-- The state an event says has been reported. -/
def Event.report? : Event → Option TransportState
  | .handler (.stateChangeHandler s) => some s
  | _ => none

theorem Event.transportState?_eq_some {e : Event} {s : TransportState}
    (h : e.transportState? = some s) : e = .transportState s := by
  cases e <;> simp_all [transportState?]

theorem Event.report?_eq_some {e : Event} {s : TransportState} (h : e.report? = some s) :
    e = .handler (.stateChangeHandler s) := by
  cases e with
  | handler hd => cases hd <;> simp_all [report?]
  | _ => simp_all [report?]

/-- The states set by `set_state`, oldest first. -/
def transportStates (history : List Event) : List TransportState :=
  history.filterMap Event.transportState?

/-- The states reported to the state change handler, oldest first. -/
def reportedStates (history : List Event) : List TransportState :=
  history.filterMap Event.report?

/-- In an ordered history, an event that may happen once happens at most once. -/
theorem count_le_one {history : List Event} (h : history.Pairwise Event.Precedes) {e : Event}
    (he : e.AtMostOnce) : history.count e ≤ 1 := by
  induction history with
  | nil => simp
  | cons e' history ih =>
    obtain ⟨hfirst, hrest⟩ := List.pairwise_cons.mp h
    by_cases heq : e' = e
    · subst heq
      have hnone : history.count e' = 0 :=
        List.count_eq_zero.mpr fun hm => (hfirst e' hm).once he rfl
      simp [hnone]
    · rw [List.count_cons_of_ne heq]
      exact ih hrest

/-! ## Section 2: What handlers do -/

/-- The handlers that may stop the transport. -/
def Op.mayStop : Op → Bool
  | .handler (.stateChangeHandler _) | .handler .detachHandler | .handler (.openHandler _) => true
  | _ => false

/-- The application and the event loop do as they like, and so do the state change handler, the
    detach handler and the open handlers when it comes to stopping the transport. -/
def HandlersStop (fs : List (Call × Op)) (a : Call) : Prop :=
  fs = [] ∨ (∀ f ∈ fs, f.2.mayStop = true) ∧ a = .stop

/-- A suspended `start` or transition to connected that does not expect to be stopped. -/
def Call.goesOnAfter (a : Call) : Op → Bool
  | .handler (.stateChangeHandler .connecting) =>
    match a with
    | .start _ => true
    | _ => false
  | .handler (.openHandler _) =>
    match a with
    | .readEvent (.notification _ _ (.assocChange .commUp)) => true
    | _ => false
  | _ => false

/-- The transport is not stopped from a handler whose caller goes on regardless, unless it has
    been stopped before. -/
def SparesTransitions (fs : List (Call × Op)) (s : Transport) (a : Call) : Prop :=
  a = .stop → s.stopped ∨ ∀ f ∈ fs, f.1.goesOnAfter f.2 = false

theorem allowed_of_handlersStop {fs : List (Call × Op)} {s : Transport} {a : Call}
    (h : HandlersStop fs a) (hspares : SparesTransitions fs s a) : Allowed {} fs s a where
  handler f fs' hfs := by
    rcases h with rfl | ⟨hall, rfl⟩
    · cases hfs
    · refine ⟨?_, trivial⟩
      have := hall f (by simp [hfs])
      revert this
      obtain ⟨b, o⟩ := f
      cases o <;> simp [Op.mayStop, Op.isHandler]
  close c ha := by
    rcases h with rfl | ⟨-, rfl⟩
    · simp [ongoing]
    · cases ha
  stop ha hfrozen := by
    obtain ⟨f, hf, hfr⟩ := hfrozen
    refine (hspares ha).resolve_right fun hnone => ?_
    rcases h with rfl | ⟨hall, -⟩
    · cases hf
    · have hgo := hnone f hf
      have hmay := hall f hf
      obtain ⟨b, o⟩ := f
      rcases hfr with ⟨c, rfl⟩ | ⟨⟨n, rfl⟩, rfl⟩ | ⟨⟨l, e, rfl⟩, c, rfl⟩
      · cases hmay
      · cases hgo
      · cases hgo
  maxChannels _ := le_top
  sidsBelow := False.elim

/-! ## Section 3: Every run -/

/-- The transport moves forward, and it detaches and closes what it uses once. -/
structure MovesForward (t : Transport) : Prop where
  reported : (reportedStates t.history).Pairwise (· < ·)
  states : (transportStates t.history).Pairwise (· < ·)
  closed : .closed ∈ transportStates t.history → t.state = .closed
  detachHandler : t.history.count (.handler .detachHandler) ≤ 1
  socket : t.history.count .usrsctpClose ≤ 1
  traceFile : t.history.count .fclose ≤ 1

theorem Inv.movesForward {L : Limits} {g : Ongoing} {t : Transport} (h : Inv L g t.view) :
    MovesForward t := by
  have hord : t.history.Pairwise Event.Precedes := h.history.ordered
  refine ⟨?_, ?_, ?_, count_le_one hord trivial, count_le_one hord trivial,
    count_le_one hord trivial⟩
  · refine hord.filterMap _ fun e e' he s hs s' hs' => ?_
    exact he.reports s s' (Event.report?_eq_some hs) (Event.report?_eq_some hs')
  · refine hord.filterMap _ fun e e' he s hs s' hs' => ?_
    exact he.transportStates s s' (Event.transportState?_eq_some hs)
      (Event.transportState?_eq_some hs')
  · intro hm
    obtain ⟨e, he, hs⟩ := List.mem_filterMap.mp hm
    rw [Event.transportState?_eq_some hs] at he
    exact le_antisymm (TransportState.le_closed _) (h.history.fits _ he)

/-- **The transport's life only moves forward and it detaches once**, in every run in which the
    transport is not stopped from a handler whose caller goes on regardless, and not let go of while
    it has channels. -/
theorem transport_life_forward [MessageBuffer]
    (dataChannelHandler stateChangeHandler destroyedHandler traceHandle : Bool)
    (usrsctpChunkSize : Nat) {c : Config Call Op Op.Reply Transport Result}
    (h : Reachable (host fun fs s a =>
        HandlersStop fs a ∧ SparesTransitions fs s a ∧ KeepsHandle s a)
      (.create dataChannelHandler stateChangeHandler destroyedHandler traceHandle
        usrsctpChunkSize) c) : MovesForward c.state :=
  (reachable_inv (L := {}) (fun _ _ _ hp => allowed_of_handlersStop hp.1 hp.2.1)
    (create_inv _ _ _ _ _) h).1.movesForward

/-- A transport that is started, and stopped once it is connecting. -/
theorem transport_life_forward_start_stop :
    MovesForward ([.enter (.start 0), .answer, .answer, .answer, .enter .stop].foldl
      (play (@host listMessageBuffer fun fs s a =>
        HandlersStop fs a ∧ SparesTransitions fs s a ∧ KeepsHandle s a) obligingOracle)
      ⟨.create false true false false 1200, []⟩).state := by
  let _ := listMessageBuffer
  refine transport_life_forward false true false false 1200
    (Reachable.start.script (fun _ _ => trivial) ?_)
  exact ⟨⟨.inl rfl, fun h => (by cases h), fun h => by cases h⟩,
    ⟨.inl rfl, fun _ => .inr fun _ hf => (nomatch hf), fun h => by cases h⟩, trivial⟩

/-! ## Section 4: Stopping the transport while it starts -/

/-- The transport after it has been closed, if it has no channels and writes no trace file. -/
def Transport.afterClosing (s : Transport) : Transport :=
  let s := s.detach.log (.handler .detachHandler)
  let s := if s.socket then (s.log .usrsctpClose).dropSocket else s
  ((s.setState .closed).log (.transportState .closed)).log (.handler (.stateChangeHandler .closed))

/-- The transport has no channels, writes no trace file and reports what happens to it. -/
structure Transport.Bare (s : Transport) : Prop where
  channels : ∀ j, s.channels j = none
  traceHandle : s.traceHandle = false
  detachHandler : s.detachHandler = true
  stateChangeHandler : s.stateChangeHandler = true

/-- Closing a bare transport, if its handlers do nothing. -/
theorem setState_closed_outcome [MessageBuffer] {answers : (o : Op) → Transport → o.Reply → Prop}
    (hanswers : ∀ h s, answers (.handler h) s ()) {s : Transport} (h : s.Bare) :
    ((setState .closed).run s).Outcome answers () s.afterClosing := by
  have hdetach : s.detach.detachHandler = true := h.detachHandler
  have hskip : TransportState.closed ≠ .connected := by decide
  simp only [setState, detachTransport, closeSocket, closeTraceFile, Routine.run_bind,
    Routine.run_get, Routine.run_modify, Routine.run_pure, Routine.run_ite, run_logEvent,
    run_callHandler, Prog.bind, if_true, run_closeTransport_of_empty s h.channels, if_pos hdetach,
    if_neg hskip]
  refine .out _ _ _ () _ _ (hanswers _ _) ?_
  have htrace : ¬ s.traceHandle = true := by simp [h.traceHandle]
  have hreport : s.stateChangeHandler = true := h.stateChangeHandler
  unfold Transport.afterClosing
  by_cases hsocket : (s.detach.log (.handler .detachHandler)).socket = true
  · simp only [if_pos hsocket, Prog.bind]
    rw [if_neg (by exact htrace)]
    simp only [Prog.bind]
    rw [if_pos (by exact hreport)]
    exact .out _ _ _ () _ _ (hanswers _ _) (.ret _ _)
  · simp only [if_neg hsocket, Prog.bind]
    rw [if_neg (by exact htrace)]
    simp only [Prog.bind]
    rw [if_pos (by exact hreport)]
    exact .out _ _ _ () _ _ (hanswers _ _) (.ret _ _)

theorem Transport.Bare.afterClosing {s : Transport} (h : s.Bare) : s.afterClosing.Bare := by
  unfold Transport.afterClosing
  by_cases hsocket : (s.detach.log (.handler .detachHandler)).socket = true
  · simp only [if_pos hsocket]
    exact ⟨h.channels, h.traceHandle, h.detachHandler, h.stateChangeHandler⟩
  · simp only [if_neg hsocket]
    exact ⟨h.channels, h.traceHandle, h.detachHandler, h.stateChangeHandler⟩

theorem stop_outcome [MessageBuffer] {answers : (o : Op) → Transport → o.Reply → Prop}
    (hanswers : ∀ h s, answers (.handler h) s ()) {s : Transport} (h : s.Bare)
    (hrunning : ¬ s.stopped) :
    ((Call.run .stop).run s).Outcome answers (.code .success) s.afterClosing := by
  have hrunning' : ¬ (s.flags.detached = true ∨ s.state = .closed) := hrunning
  simp only [Call.run, sctpTransportStop, Routine.run_map, Routine.run_bind, Routine.run_get,
    Prog.bind, Routine.run_ite, if_neg hrunning', Prog.outcome_bind_iff]
  exact ⟨_, _, ⟨_, _, setState_closed_outcome hanswers h, .ret _ _⟩, .ret _ _⟩

/-- What `start` does after it has reported that the transport is connecting. -/
def sctpTransportStarted [MessageBuffer] : M Result :=
  Result.code <$> do
    let error ← sctpTransportSetMtu defaultMtu
    if error ≠ .success then
      setState .closed
    return error

/-- If the socket is gone, `start` closes the transport after all. -/
theorem sctpTransportStarted_outcome [MessageBuffer]
    {answers : (o : Op) → Transport → o.Reply → Prop} (hanswers : ∀ h s, answers (.handler h) s ())
    {s : Transport} (h : s.Bare) (hsocket : s.socket = false) :
    (sctpTransportStarted.run s).Outcome answers (.code .invalidArgument) s.afterClosing := by
  have hfailed : Code.invalidArgument ≠ .success := by decide
  simp only [sctpTransportStarted, sctpTransportSetMtu, Routine.run_map, Routine.run_bind,
    Routine.run_get, Routine.run_pure, Prog.bind, Routine.run_ite, if_pos hsocket, if_pos hfailed,
    Prog.outcome_bind_iff]
  exact ⟨_, _, ⟨_, _, setState_closed_outcome hanswers h, .ret _ _⟩, .ret _ _⟩

/-- The transport is stopped by the state change handler while `start` reports that it is
    connecting. `start` goes on, finds that it cannot set the MTU and closes the transport again,
    which calls the detach handler a second time. -/
theorem transport_life_not_forward : ∃ c, Reachable
    (@host listMessageBuffer fun fs _ a => HandlersStop fs a)
    (.create false true false false 1200) c ∧ ¬ MovesForward c.state := by
  let _ := listMessageBuffer
  let H := host fun fs _ a => HandlersStop fs a
  let s₀ := Transport.create false true false false 1200
  have hhandlers : ∀ h s, H.answers (.handler h) s () := fun _ _ => trivial
  -- the application starts the transport, and usrsctp accepts
  have hstart : Reachable H s₀ ([.enter (.start 0), .answer].foldl (play H obligingOracle)
      ⟨s₀, []⟩) :=
    Reachable.start.script (fun _ _ => trivial) ⟨.inl rfl, trivial⟩
  let s₁ : Transport := ((s₀.setState .connecting).log (.transportState .connecting)).log
    (.handler (.stateChangeHandler .connecting))
  have hbare : s₁.Bare := ⟨fun _ => rfl, rfl, rfl, rfl⟩
  let f : Frame Call Op Op.Reply Transport Result :=
    ⟨.start 0, .handler (.stateChangeHandler .connecting), fun _ s => sctpTransportStarted.run s⟩
  change Reachable H s₀ ⟨s₁, [f]⟩ at hstart
  -- the handler stops it
  have hpermits : HandlersStop (pending [f]) .stop := .inr ⟨by simp [pending, f, Op.mayStop], rfl⟩
  have hrunning : ¬ s₁.stopped := by decide
  have hstop : Reachable H s₀ ⟨s₁.afterClosing, [f]⟩ :=
    hstart.enter_outcome hpermits (stop_outcome hhandlers hbare hrunning)
  -- `start` goes on
  have hresume : f.resume () s₁.afterClosing = sctpTransportStarted.run s₁.afterClosing := by
    simp only [f]
  have hend : Reachable H s₀ ⟨s₁.afterClosing.afterClosing, []⟩ :=
    hstop.answer_outcome () trivial
      (hresume ▸ sctpTransportStarted_outcome hhandlers hbare.afterClosing rfl)
  refine ⟨_, hend, fun h => ?_⟩
  have hcount : s₁.afterClosing.afterClosing.history.count (.handler .detachHandler) = 2 := by decide
  have hle : s₁.afterClosing.afterClosing.history.count (.handler .detachHandler) ≤ 1 :=
    h.detachHandler
  omega

end RawrtcDataChannel
