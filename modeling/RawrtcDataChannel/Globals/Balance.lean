import Mathlib.Data.List.Induction
import RawrtcDataChannel.Globals.Creation

/-!
# The balance of the global state

As long as creations are granted whatever they ask for once their arguments have been checked,
the global state tells how many transports there are, and usrsctp and the timer are there if and
only if there is a transport. Otherwise it is not so: the first transport initialises usrsctp
before it is allocated, and nobody takes that back if the allocation fails; and a creation that
fails later runs the destructor, which calls handlers of the application and cancels a timer that
may never have been started.
-/

namespace RawrtcDataChannel

open Reentrant Fallible

/-! ## Section 1: Balance -/

/-- Whenever the timer was cancelled in these calls it had been started before. -/
def CancelsRunning (calls : List GlobalCall) : Prop :=
  ∀ before error later, calls = before ++ .timerHandler false error :: later →
    timerRunning before = true

/-- The global state belongs to the transports that are alive. -/
structure World.Balanced (w : World) : Prop where
  counter : w.global.usrsctpInitialized = w.live.length
  usrsctp : usrsctpUp w.global.calls = true ↔ 0 < w.live.length
  timer : timerRunning w.global.calls = true ↔ 0 < w.live.length
  cancelled : CancelsRunning w.global.calls
  chunkSize : ∀ t ∈ w.live, 1 ≤ w.global.usrsctpChunkSize

/-- A step keeps the balance, and if it fails it does so without calling a handler. -/
structure Step.KeepsBalance [MessageBuffer] (w : World) (step : Step) : Prop where
  balanced : (step.run w).world.Balanced
  quiet : (step.run w).code ≠ .success → (step.run w).handlers = []

/-- Every step of a sequence keeps the balance. -/
def KeepBalance [MessageBuffer] (steps : List Step) : Prop :=
  ∀ before step later, steps = before ++ step :: later → step.KeepsBalance (.after before)

/-- The arguments and the state of the DTLS transport allow for a creation. -/
def CreateAnswers.Accepted (a : CreateAnswers) : Prop :=
  a.pointers = true ∧ validateContext a = .success ∧
    (a.dtlsTransportState = .ok .newOrConnecting ∨ a.dtlsTransportState = .ok .connected)

/-- Nothing fails after the transport has been allocated. The first transport asks for more. -/
structure CreateAnswers.Granted (a : CreateAnswers) (first : Prop) : Prop where
  scheduleTimer : first → a.scheduleTimer = none
  allocChannels : a.allocChannels = true
  traceHandleName : a.tracePackets = true → a.traceHandleName = none
  socket : a.socket = none
  setNonBlocking : a.setNonBlocking = none
  setUpcall : a.setUpcall = none
  partialDeliveryPoint : first →
    ∃ value, a.partialDeliveryPoint = .ok (sizeofInt, value) ∧ 1 ≤ value
  enableStreamReset : a.enableStreamReset = none
  recvrcvinfo : a.recvrcvinfo = none
  linger : a.linger = none
  nodelay : a.nodelay = none
  explicitEor : a.explicitEor = none
  event : ∀ event ∈ sctpEvents, a.event event = none
  bind : a.bind = none

/-- A step does not meet what the code cannot cope with. -/
def Step.Careful (w : World) : Step → Prop
  | .create a => a.Accepted →
      if a.allocTransport then a.Granted (w.live = []) else w.live ≠ []
  | .use _ _ => True
  | .release i _ cancelTimer => i < w.live.length → w.live.length = 1 → cancelTimer = none

/-- Every step of a sequence is careful. -/
def AllCareful [MessageBuffer] (steps : List Step) : Prop :=
  ∀ before step later, steps = before ++ step :: later → step.Careful (.after before)

/-! ## Section 2: Reading the calls -/

section Calls

variable (calls : List GlobalCall)

@[simp] theorem usrsctpUp_append (more : List GlobalCall) :
    usrsctpUp (calls ++ more) = more.foldl GlobalCall.usrsctpAfter (usrsctpUp calls) :=
  List.foldl_append

@[simp] theorem timerRunning_append (more : List GlobalCall) :
    timerRunning (calls ++ more) = more.foldl GlobalCall.timerAfter (timerRunning calls) :=
  List.foldl_append

variable {calls}

/-- Adding a call: if it cancels the timer then the timer has to be running. -/
theorem CancelsRunning.append (h : CancelsRunning calls) {c : GlobalCall}
    (hc : ∀ error, c = .timerHandler false error → timerRunning calls = true) :
    CancelsRunning (calls ++ [c]) := by
  intro before error later heq
  rcases List.eq_nil_or_concat later with rfl | ⟨later', last, rfl⟩
  · -- the cancelling is the call that is added
    obtain ⟨rfl, hlast⟩ := List.append_inj' heq rfl
    exact hc error (by simpa using hlast)
  · have hsplit : calls ++ [c] = (before ++ .timerHandler false error :: later') ++ [last] := by
      simpa using heq
    obtain ⟨hcalls, -⟩ := List.append_inj' hsplit rfl
    exact h before error later' hcalls

end Calls

/-! ## Section 3: Destroying a transport that is not finished -/

/-- A transport that nobody but its creation has used. -/
structure Transport.Unborn (a : CreateAnswers) (t : Transport) : Prop where
  flags : t.flags = {}
  state : t.state = .new
  channels : ∀ i, t.channels i = none
  detachHandler : t.detachHandler = a.detachHandler
  stateChangeHandler : t.stateChangeHandler = a.stateChangeHandler

/-- Destroying it calls the detach handler and the state change handler nevertheless. -/
theorem destroyHandlers_of_unborn [MessageBuffer] {a : CreateAnswers} {t : Transport}
    (h : t.Unborn a) :
    destroyHandlers (fun o t => (obligingOracle o t, t)) t =
      (if a.detachHandler then [.detachHandler] else []) ++
        if a.stateChangeHandler then [.stateChangeHandler .closed] else [] := by
  have hopen : ¬ (t.flags.detached = true ∨ t.state = .closed) := by simp [h.flags, h.state]
  have hclose := run_closeTransport_of_empty { t with history := [] } h.channels
  simp only [destroyHandlers, Prog.execIn_eq_exec, sctpTransportDestroy, sctpTransportStop,
    Routine.run_bind, Routine.run_get, Routine.run_ite, Prog.bind, if_neg hopen, setState, if_true,
    hclose]
  cases hdetach : a.detachHandler <;> cases hchange : a.stateChangeHandler <;>
    cases hsocket : t.socket <;> cases htrace : t.traceHandle <;>
    simp [detachTransport, closeSocket, closeTraceFile, Prog.bind, Prog.exec, Transport.detach,
      Transport.log, Transport.dropSocket, Transport.setState, h.flags, h.detachHandler,
      h.stateChangeHandler, hdetach, hchange, List.filterMap_cons]

/-! ## Section 4: Where a creation ends -/

/-- The global state when the timer has been started (if needed). -/
def RawrtcdcGlobal.timerStarted (g : RawrtcdcGlobal) : RawrtcdcGlobal :=
  if g.usrsctpInitialized = 1 then g.logCall (.timerHandler true none) else g

@[simp] theorem RawrtcdcGlobal.timerStarted_usrsctpInitialized (g : RawrtcdcGlobal) :
    g.timerStarted.usrsctpInitialized = g.usrsctpInitialized := by
  unfold timerStarted
  split <;> rfl

/-- The state of a creation behind the start of the timer. -/
def Creating.underway (a : CreateAnswers) (g : RawrtcdcGlobal) (traceHandle socket : Bool)
    (chunkSize : Nat) : Creating where
  transport :=
    { Transport.allocated a g with
      traceHandle := traceHandle, socket := socket, usrsctpChunkSize := chunkSize }
  global := g.timerStarted.setChunkSize chunkSize

/-- When the timer has been started, nothing else has happened yet. -/
theorem Creating.underway_start (a : CreateAnswers) (g : RawrtcdcGlobal) :
    Creating.underway a g false false g.usrsctpChunkSize =
      ⟨.allocated a g, g.timerStarted⟩ := by
  unfold underway RawrtcdcGlobal.timerStarted
  split <;> rfl

/-- How a creation fails: something was not granted, and what is left is a transport that nobody
    has used. -/
def Fails (a : CreateAnswers) (first : Prop) (e : Code) (s : Creating) : Prop :=
  e ≠ .success ∧ ¬ a.Granted first ∧ s.transport.Unborn a

section Ends

variable {a : CreateAnswers} {g : RawrtcdcGlobal} {first : Prop} {traceHandle socket : Bool}
  {chunkSize : Nat}

theorem unborn_allocated : (Transport.allocated a g).Unborn a where
  flags := rfl
  state := rfl
  channels _ := rfl
  detachHandler := rfl
  stateChangeHandler := rfl

theorem unborn_underway :
    (Creating.underway a g traceHandle socket chunkSize).transport.Unborn a where
  flags := rfl
  state := rfl
  channels _ := rfl
  detachHandler := rfl
  stateChangeHandler := rfl

theorem ends_failWith {error : Option Failure} {s : Creating} {Q : Unit → Creating → Prop}
    (hs : s.transport.Unborn a) (hneeded : error ≠ none → ¬ a.Granted first)
    (hok : error = none → Q () s) : Ends (failWith error) s Q (Fails a first) := by
  refine (ends_orFail _).mpr ⟨fun h => hok (by simpa using h), fun e he => ?_⟩
  obtain ⟨reason, hreason, rfl⟩ := Option.map_eq_some_iff.mp he
  exact ⟨reason.property, hneeded (by simp [hreason]), hs⟩

theorem ends_startTimer {Q : Unit → Creating → Prop}
    (hok : (g.usrsctpInitialized = 1 → a.scheduleTimer = none) →
      Q () (.underway a g false false g.usrsctpChunkSize)) :
    Ends (startTimer a) ⟨.allocated a g, g⟩ Q (Fails a (g.usrsctpInitialized = 1)) := by
  unfold startTimer
  rw [ends_bind, ends_get]
  split
  next hfirst =>
    rw [ends_bind, ends_modify]
    cases herror : a.scheduleTimer with
    | none =>
      have hstart := hok fun _ => herror
      rw [Creating.underway_start, RawrtcdcGlobal.timerStarted, if_pos hfirst] at hstart
      exact hstart
    | some reason =>
      refine ⟨by decide, fun hgranted => ?_, unborn_allocated⟩
      exact absurd (hgranted.scheduleTimer hfirst) (by simp [herror])
  next hfirst =>
    have hstart := hok fun h => absurd h hfirst
    rw [Creating.underway_start, RawrtcdcGlobal.timerStarted, if_neg hfirst] at hstart
    exact hstart

theorem ends_dataChannelsAlloc {s : Creating} {Q : Unit → Creating → Prop}
    (hs : s.transport.Unborn a) (hok : a.allocChannels = true → Q () s) :
    Ends (dataChannelsAlloc a) s Q (Fails a first) := by
  unfold dataChannelsAlloc
  split
  next h => exact hok h
  next h => exact ⟨by decide, fun hgranted => h hgranted.allocChannels, hs⟩

theorem ends_createPacketTracer {Q : Option Failure → Creating → Prop}
    (hok : ∀ error traceHandle,
      (error = none → (a.tracePackets = true → a.traceHandleName = none) ∧
        traceHandle = (a.tracePackets && a.traceHandle)) →
      (error ≠ none → ¬ a.Granted first) →
      Q error (.underway a g traceHandle false chunkSize)) :
    Ends (createPacketTracer a) (.underway a g false false chunkSize) Q (Fails a first) := by
  unfold createPacketTracer
  cases htrace : a.tracePackets with
  | false =>
    exact hok none false (by simp [htrace]) (by simp)
  | true =>
    cases hname : a.traceHandleName with
    | none =>
      exact hok none a.traceHandle (by simp [htrace, hname]) (by simp)
    | some reason =>
      refine hok (some reason) false (by simp) fun _ hgranted => ?_
      exact absurd (hgranted.traceHandleName htrace) (by simp [hname])

theorem ends_createSocket {Q : Unit → Creating → Prop}
    (hok : a.socket = none → Q () (.underway a g traceHandle true chunkSize)) :
    Ends (createSocket a) (.underway a g traceHandle false chunkSize) Q (Fails a first) := by
  unfold createSocket
  rw [ends_bind]
  exact ends_failWith unborn_underway (fun h hgranted => h hgranted.socket) hok

/-- The chunk size is asked for once, and then it is at least 1. -/
theorem ends_determineChunkSize {Q : Unit → Creating → Prop}
    (hok : ∀ size,
      (g.usrsctpInitialized = 1 →
        1 ≤ size ∧ ∃ value, a.partialDeliveryPoint = .ok (sizeofInt, value) ∧ 1 ≤ value) →
      (g.usrsctpInitialized ≠ 1 → size = chunkSize) →
      Q () (.underway a g traceHandle socket size)) :
    Ends (determineChunkSize a) (.underway a g traceHandle socket chunkSize) Q
      (Fails a (g.usrsctpInitialized = 1)) := by
  unfold determineChunkSize
  rw [ends_bind, ends_get]
  have hcount : (Creating.underway a g traceHandle socket chunkSize).global.usrsctpInitialized =
      g.usrsctpInitialized := g.timerStarted_usrsctpInitialized
  rw [hcount]
  split
  next hfirst =>
    cases hpoint : a.partialDeliveryPoint with
    | error reason =>
      refine ⟨reason.property, fun hgranted => ?_, unborn_underway⟩
      obtain ⟨value, hvalue, -⟩ := hgranted.partialDeliveryPoint hfirst
      exact absurd (hpoint.symm.trans hvalue) (by simp)
    | ok point =>
      obtain ⟨size, value⟩ := point
      dsimp only
      split
      next hbad =>
        refine ⟨by decide, fun hgranted => ?_, unborn_underway⟩
        obtain ⟨value', hvalue, hpos⟩ := hgranted.partialDeliveryPoint hfirst
        obtain ⟨rfl, rfl⟩ : size = sizeofInt ∧ value = value' := by
          simpa using hpoint.symm.trans hvalue
        omega
      next hgood =>
        obtain ⟨rfl, hpos⟩ : size = sizeofInt ∧ 1 ≤ value := by omega
        refine hok value.toNat (fun _ => ⟨by omega, value, hpoint, hpos⟩) ?_
        exact fun h => absurd hfirst h
  next hfirst =>
    exact hok chunkSize (fun h => absurd h hfirst) fun _ => rfl

theorem ends_subscribe {events : List SctpEvent} {s : Creating} {Q : Unit → Creating → Prop}
    (hs : s.transport.Unborn a) (hsub : ∀ event ∈ events, event ∈ sctpEvents)
    (hok : (∀ event ∈ events, a.event event = none) → Q () s) :
    Ends (subscribe a events) s Q (Fails a first) := by
  induction events with
  | nil => exact hok (by simp)
  | cons event events ih =>
    unfold subscribe
    rw [ends_bind]
    refine ends_failWith hs (fun h hgranted => h (hgranted.event event (hsub event (by simp)))) ?_
    intro hevent
    refine ih (fun e he => hsub e (by simp [he])) fun hevents => hok ?_
    simpa [hevent] using hevents

/-- The whole creation: it ends with everything granted and a finished transport, or it fails. -/
theorem ends_openTransport :
    Ends (openTransport a) ⟨.allocated a g, g⟩
      (fun _ s => a.Granted (g.usrsctpInitialized = 1) ∧ ∃ size,
        (g.usrsctpInitialized = 1 → 1 ≤ size) ∧
        (g.usrsctpInitialized ≠ 1 → size = g.usrsctpChunkSize) ∧
        s = .underway a g (a.tracePackets && a.traceHandle) true size)
      (Fails a (g.usrsctpInitialized = 1)) := by
  unfold openTransport
  rw [ends_bind]
  refine ends_startTimer fun htimer => ?_
  rw [ends_bind]
  refine ends_dataChannelsAlloc unborn_underway fun halloc => ?_
  rw [ends_bind]
  refine ends_createPacketTracer fun error traceHandle htrace hneeded => ?_
  rw [ends_bind]
  refine ends_createSocket fun hsocket => ?_
  rw [ends_bind]
  refine ends_failWith unborn_underway (fun h hgranted => h hgranted.setNonBlocking) fun hblock => ?_
  rw [ends_bind]
  refine ends_failWith unborn_underway (fun h hgranted => h hgranted.setUpcall) fun hupcall => ?_
  rw [ends_bind]
  refine ends_determineChunkSize fun size hfirst hlater => ?_
  rw [ends_bind]
  refine ends_failWith unborn_underway (fun h hgranted => h hgranted.enableStreamReset)
    fun hreset => ?_
  rw [ends_bind]
  refine ends_failWith unborn_underway (fun h hgranted => h hgranted.recvrcvinfo) fun hinfo => ?_
  rw [ends_bind]
  refine ends_failWith unborn_underway (fun h hgranted => h hgranted.linger) fun hlinger => ?_
  rw [ends_bind]
  refine ends_failWith unborn_underway (fun h hgranted => h hgranted.nodelay) fun hnodelay => ?_
  rw [ends_bind]
  refine ends_failWith unborn_underway (fun h hgranted => h hgranted.explicitEor) fun heor => ?_
  rw [ends_bind]
  refine ends_subscribe unborn_underway (fun _ h => h) fun hevents => ?_
  rw [ends_bind]
  refine ends_failWith unborn_underway (fun h hgranted => h hgranted.bind) fun hbind => ?_
  -- all that is left is what the packet tracer may have put into `error`
  refine ends_failWith unborn_underway hneeded fun herror => ?_
  obtain ⟨hname, rfl⟩ := htrace herror
  exact ⟨⟨htimer, halloc, hname, hsocket, hblock, hupcall, fun h => (hfirst h).2, hreset, hinfo,
    hlinger, hnodelay, heor, hevents, hbind⟩, size, fun h => (hfirst h).1, hlater, rfl⟩

end Ends

/-! ## Section 5: One step -/

theorem balanced_initial : World.Balanced {} where
  counter := rfl
  usrsctp := by decide
  timer := by decide
  cancelled before error later h := by simp at h
  chunkSize t ht := by simp at ht

section Balance

variable {w : World} (h : w.Balanced)
include h

/-- A creation that succeeds keeps the balance. -/
theorem World.Balanced.created {t : Transport} {size : Nat} (hsize : 1 ≤ size) :
    World.Balanced ⟨(w.global.initUsrsctp.increase).timerStarted.setChunkSize size,
      w.live ++ [t]⟩ := by
  have hcounter := h.counter
  by_cases hlive : w.live = []
  · -- the first transport brings usrsctp and the timer up
    have hzero : w.global.usrsctpInitialized = 0 := by simp [hcounter, hlive]
    have hcalls : ((w.global.initUsrsctp.increase).timerStarted.setChunkSize size).calls =
        (w.global.calls ++ [.usrsctpInit]) ++ [.timerHandler true none] := by
      simp [RawrtcdcGlobal.initUsrsctp, hzero, RawrtcdcGlobal.logCall, RawrtcdcGlobal.increase,
        RawrtcdcGlobal.timerStarted, RawrtcdcGlobal.setChunkSize]
    constructor
    · simp [RawrtcdcGlobal.initUsrsctp, hzero, RawrtcdcGlobal.logCall, RawrtcdcGlobal.increase,
        RawrtcdcGlobal.timerStarted, RawrtcdcGlobal.setChunkSize, hlive]
    · simp [hcalls, GlobalCall.usrsctpAfter]
    · simp [hcalls, GlobalCall.timerAfter]
    · rw [hcalls]
      refine (h.cancelled.append ?_).append ?_ <;> simp
    · exact fun _ _ => hsize
  · -- another transport changes the counter only
    have hpos : 0 < w.live.length := List.length_pos_iff.mpr hlive
    have hnonzero : w.global.usrsctpInitialized ≠ 0 := by omega
    have hglobal : (w.global.initUsrsctp.increase).timerStarted.setChunkSize size =
        { w.global with
          usrsctpInitialized := w.global.usrsctpInitialized + 1, usrsctpChunkSize := size } := by
      simp [RawrtcdcGlobal.initUsrsctp, hnonzero, RawrtcdcGlobal.increase,
        RawrtcdcGlobal.timerStarted, RawrtcdcGlobal.setChunkSize]
    rw [hglobal]
    constructor
    · simp [hcounter]
    · exact iff_of_true (h.usrsctp.mpr hpos) (by simp)
    · exact iff_of_true (h.timer.mpr hpos) (by simp)
    · exact h.cancelled
    · exact fun _ _ => hsize

/-- Releasing a transport keeps the balance unless the timer goes on running behind the last. -/
theorem World.Balanced.released_iff {i : Nat} (hi : i < w.live.length)
    (cancelTimer : Option Failure) :
    World.Balanced ⟨w.global.decrease cancelTimer, w.live.eraseIdx i⟩ ↔
      (w.live.length = 1 → cancelTimer = none) := by
  have hcounter := h.counter
  have hlength : (w.live.eraseIdx i).length = w.live.length - 1 := List.length_eraseIdx_of_lt hi
  by_cases hlast : w.live.length = 1
  · -- the last transport takes usrsctp down, and the timer if it can be cancelled
    have hzero : w.global.usrsctpInitialized - 1 = 0 := by omega
    have hrunning : timerRunning w.global.calls = true := h.timer.mpr (by omega)
    have hglobal : w.global.decrease cancelTimer =
        { w.global with
          usrsctpInitialized := 0
          calls := (w.global.calls ++ [.timerHandler false cancelTimer]) ++ [.usrsctpFinish] } := by
      simp [RawrtcdcGlobal.decrease, hzero, RawrtcdcGlobal.logCall]
    rw [hglobal]
    constructor
    · intro hbalanced _
      have htimer := hbalanced.timer
      cases hcancel : cancelTimer with
      | none => rfl
      | some reason =>
        simp [hcancel, GlobalCall.timerAfter, hrunning, hlength, hlast] at htimer
    · intro hcancel
      obtain rfl := hcancel hlast
      constructor
      · simp [hlength, hlast]
      · simp [GlobalCall.usrsctpAfter, hlength, hlast]
      · simp [GlobalCall.timerAfter, hlength, hlast]
      · exact (h.cancelled.append fun _ _ => hrunning).append (by simp)
      · intro t ht
        exact h.chunkSize t (List.mem_of_mem_eraseIdx ht)
  · -- any other transport changes the counter only
    have hnonzero : w.global.usrsctpInitialized - 1 ≠ 0 := by omega
    have hglobal : w.global.decrease cancelTimer =
        { w.global with usrsctpInitialized := w.global.usrsctpInitialized - 1 } := by
      simp [RawrtcdcGlobal.decrease, hnonzero]
    have hpos : 0 < w.live.length ↔ 0 < (w.live.eraseIdx i).length := by omega
    rw [hglobal]
    refine iff_of_true ⟨?_, ?_, ?_, h.cancelled, ?_⟩ fun heq => absurd heq hlast
    · show w.global.usrsctpInitialized - 1 = (w.live.eraseIdx i).length
      omega
    · exact h.usrsctp.trans hpos
    · exact h.timer.trans hpos
    · intro t ht
      exact h.chunkSize t (List.mem_of_mem_eraseIdx ht)

/-- Initialising usrsctp alone keeps the balance only if it was initialised before. -/
theorem World.Balanced.initialised_iff :
    World.Balanced ⟨w.global.initUsrsctp, w.live⟩ ↔ w.live ≠ [] := by
  have hcounter := h.counter
  by_cases hlive : w.live = []
  · have hzero : w.global.usrsctpInitialized = 0 := by simp [hcounter, hlive]
    refine iff_of_false (fun hbalanced => ?_) (not_not.mpr hlive)
    have hup := hbalanced.usrsctp
    simp [RawrtcdcGlobal.initUsrsctp, hzero, RawrtcdcGlobal.logCall, GlobalCall.usrsctpAfter,
      hlive] at hup
  · have hpos : 0 < w.live.length := List.length_pos_iff.mpr hlive
    have hnonzero : w.global.usrsctpInitialized ≠ 0 := by omega
    have hglobal : w.global.initUsrsctp = w.global := if_neg hnonzero
    refine iff_of_true ?_ hlive
    rw [hglobal]
    exact h

end Balance

section Step

variable [MessageBuffer] {w : World} {a : CreateAnswers}

omit [MessageBuffer] in
theorem detachHandler_of_accepted (h : a.Accepted) : a.detachHandler = true := by
  obtain ⟨-, hvalid, -⟩ := h
  cases hdetach : a.detachHandler with
  | true => rfl
  | false => simp [validateContext, hdetach] at hvalid

/-- A creation whose arguments pass the checks. -/
theorem create_of_accepted (h : a.Accepted) :
    sctpTransportCreateFromExternal a w = createTransport a w := by
  obtain ⟨hpointers, hvalid, hdtls⟩ := h
  rcases hdtls with hdtls | hdtls <;>
    simp [sctpTransportCreateFromExternal, hpointers, hvalid, hdtls]

/-- A creation whose arguments do not pass the checks does nothing. -/
theorem create_of_not_accepted (h : ¬ a.Accepted) :
    ∃ code, sctpTransportCreateFromExternal a w = { code := code, world := w } := by
  by_cases hpointers : a.pointers = true
  · by_cases hvalid : validateContext a = .success
    · cases hdtls : a.dtlsTransportState with
      | error reason =>
        exact ⟨.externalError, by simp [sctpTransportCreateFromExternal, hpointers, hvalid, hdtls]⟩
      | ok state =>
        cases state with
        | closedOrFailed =>
          exact ⟨.invalidState, by simp [sctpTransportCreateFromExternal, hpointers, hvalid, hdtls]⟩
        | newOrConnecting => exact absurd ⟨hpointers, hvalid, .inl hdtls⟩ h
        | connected => exact absurd ⟨hpointers, hvalid, .inr hdtls⟩ h
    · exact ⟨validateContext a, by simp [sctpTransportCreateFromExternal, hpointers, hvalid]⟩
  · exact ⟨.invalidArgument, by simp [sctpTransportCreateFromExternal, hpointers]⟩

omit [MessageBuffer] in
/-- A finished transport is one as the rest of the library expects it. -/
theorem Creating.underway_finished {g : RawrtcdcGlobal} (hdetach : a.detachHandler = true)
    (size : Nat) :
    { (Creating.underway a g (a.tracePackets && a.traceHandle) true size).transport with
      flags := { initialized := true } } =
      Transport.create a.dataChannelHandler a.stateChangeHandler a.destroyedHandler
        (a.tracePackets && a.traceHandle) size := by
  simp only [underway, Transport.allocated, Transport.create, hdetach]

/-- A creation whose arguments pass the checks, and whose transport is allocated, makes a new
    transport, or it fails and has called handlers. -/
theorem createTransport_cases (h : w.Balanced) (haccepted : a.Accepted)
    (halloc : a.allocTransport = true) :
    (a.Granted (w.live = []) ∧ ∃ size, 1 ≤ size ∧ createTransport a w =
      { code := .success
        world := ⟨(w.global.initUsrsctp.increase).timerStarted.setChunkSize size,
          w.live ++ [.create a.dataChannelHandler a.stateChangeHandler a.destroyedHandler
            (a.tracePackets && a.traceHandle) size]⟩ }) ∨
    (¬ a.Granted (w.live = []) ∧ (createTransport a w).code ≠ .success ∧
      (createTransport a w).handlers = .detachHandler ::
        if a.stateChangeHandler then [.stateChangeHandler .closed] else []) := by
  have hdetach := detachHandler_of_accepted haccepted
  have hcounter : w.global.initUsrsctp.usrsctpInitialized = w.live.length := by
    rw [← h.counter]
    unfold RawrtcdcGlobal.initUsrsctp
    split <;> rfl
  have hsize : w.global.initUsrsctp.usrsctpChunkSize = w.global.usrsctpChunkSize := by
    unfold RawrtcdcGlobal.initUsrsctp
    split <;> rfl
  -- the counter is 1 behind its increase exactly if there was no transport before
  have hfirst : w.global.initUsrsctp.increase.usrsctpInitialized = 1 ↔ w.live = [] := by
    rw [← List.length_eq_zero_iff, ← hcounter]
    exact Nat.add_right_cancel_iff
  have hends := ends_openTransport (a := a) (g := w.global.initUsrsctp.increase)
  rw [hfirst] at hends
  obtain ⟨u, s, hrun, hgranted, size, hone, hother, rfl⟩ | ⟨e, s, hrun, hcode, hnot, hunborn⟩ :=
    hends.elim
  · have hresult : createTransport a w =
        { code := .success
          world := ⟨(w.global.initUsrsctp.increase).timerStarted.setChunkSize size,
            w.live ++ [.create a.dataChannelHandler a.stateChangeHandler a.destroyedHandler
              (a.tracePackets && a.traceHandle) size]⟩ } := by
      simp only [createTransport, halloc, if_true, hrun, Creating.underway_finished hdetach]
      rfl
    refine .inl ⟨hgranted, size, ?_, hresult⟩
    by_cases hlive : w.live = []
    · exact hone hlive
    · obtain ⟨t, ht⟩ := List.exists_mem_of_ne_nil _ hlive
      have hchunk : size = w.global.usrsctpChunkSize :=
        (hother (mt hfirst.mp hlive)).trans hsize
      exact hchunk ▸ h.chunkSize t ht
  · refine .inr ⟨hnot, by simpa [createTransport, halloc, hrun] using hcode, ?_⟩
    have hhandlers := destroyHandlers_of_unborn hunborn
    rw [if_pos hdetach, List.singleton_append] at hhandlers
    simpa only [createTransport, halloc, if_true, hrun] using hhandlers

/-- In balance, a step keeps it exactly if it is careful. -/
theorem keepsBalance_iff (h : w.Balanced) (step : Step) :
    step.KeepsBalance w ↔ step.Careful w := by
  cases step with
  | create a =>
    by_cases haccepted : a.Accepted
    · have hcareful : (Step.create a).Careful w ↔
          if a.allocTransport then a.Granted (w.live = []) else w.live ≠ [] :=
        ⟨fun hc => hc haccepted, fun hc _ => hc⟩
      have hrun : (Step.create a).run w = createTransport a w := create_of_accepted haccepted
      rw [hcareful]
      cases halloc : a.allocTransport with
      | false =>
        have hresult : createTransport a w =
            { code := .noMemory, world := ⟨w.global.initUsrsctp, w.live⟩ } := by
          simp [createTransport, halloc]
        rw [if_neg (by decide), ← h.initialised_iff]
        constructor
        · intro hkeeps
          have hbalanced := hkeeps.balanced
          rw [hrun, hresult] at hbalanced
          exact hbalanced
        · intro hbalanced
          refine ⟨?_, ?_⟩
          · rw [hrun, hresult]
            exact hbalanced
          · rw [hrun, hresult]
            exact fun _ => rfl
      | true =>
        rw [if_pos rfl]
        obtain ⟨hgranted, size, hsize, hresult⟩ | ⟨hnot, hcode, hhandlers⟩ :=
          createTransport_cases h haccepted halloc
        · refine iff_of_true ⟨?_, ?_⟩ hgranted
          · rw [hrun, hresult]
            exact h.created hsize
          · rw [hrun, hresult]
            exact fun _ => rfl
        · refine iff_of_false (fun hkeeps => ?_) hnot
          -- the destructor has called the detach handler, which every context has
          have hquiet := hkeeps.quiet
          rw [hrun] at hquiet
          have hnone := hquiet hcode
          rw [hhandlers] at hnone
          cases hnone
    · obtain ⟨code, hresult⟩ := create_of_not_accepted (w := w) haccepted
      have hrun : (Step.create a).run w = { code := code, world := w } := hresult
      refine iff_of_true ⟨?_, ?_⟩ fun h => absurd h haccepted
      · rw [hrun]
        exact h
      · rw [hrun]
        exact fun _ => rfl
  | use i t =>
    refine iff_of_true ⟨?_, fun hcode => absurd rfl hcode⟩ trivial
    show World.Balanced { w with live := w.live.set i t }
    have hlength : (w.live.set i t).length = w.live.length := List.length_set
    refine ⟨?_, ?_, ?_, h.cancelled, fun u hu => ?_⟩
    · exact h.counter.trans hlength.symm
    · exact h.usrsctp.trans (by rw [hlength])
    · exact h.timer.trans (by rw [hlength])
    · obtain ⟨u', hu'⟩ : ∃ u', u' ∈ w.live := by
        refine List.exists_mem_of_length_pos ?_
        exact hlength ▸ List.length_pos_of_mem hu
      exact h.chunkSize u' hu'
  | release i meanwhile cancelTimer =>
    have hcareful : (Step.release i meanwhile cancelTimer).Careful w ↔
        (i < w.live.length → w.live.length = 1 → cancelTimer = none) := Iff.rfl
    rw [hcareful]
    cases hlive : w.live[i]? with
    | none =>
      have hi : w.live.length ≤ i := List.getElem?_eq_none_iff.mp hlive
      have hrun : (Step.release i meanwhile cancelTimer).run w = { code := .success, world := w } := by
        simp [Step.run, sctpTransportRelease, hlive]
      refine iff_of_true ⟨?_, ?_⟩ fun h => absurd h (by omega)
      · rw [hrun]
        exact h
      · rw [hrun]
        exact fun _ => rfl
    | some t =>
      obtain ⟨hi, -⟩ := List.getElem?_eq_some_iff.mp hlive
      have hrun : (Step.release i meanwhile cancelTimer).run w =
          { code := .success, handlers := destroyHandlers meanwhile t
            world := ⟨w.global.decrease cancelTimer, w.live.eraseIdx i⟩ } := by
        simp [Step.run, sctpTransportRelease, hlive]
      have hreleased := h.released_iff hi cancelTimer
      constructor
      · intro hkeeps _
        have hbalanced := hkeeps.balanced
        rw [hrun] at hbalanced
        exact hreleased.mp hbalanced
      · intro hcancel
        refine ⟨?_, ?_⟩
        · rw [hrun]
          exact hreleased.mpr (hcancel hi)
        · rw [hrun]
          exact fun hcode => absurd rfl hcode

end Step

/-! ## Section 6: Every sequence of steps -/

section Runs

variable [MessageBuffer]

theorem World.after_concat (before : List Step) (step : Step) :
    World.after (before ++ [step]) = (step.run (.after before)).world := by
  simp [World.after]

/-- Where the balance has been kept so far there is balance. -/
theorem balanced_of_steps (before : List Step)
    (h : ∀ before' step later, before = before' ++ step :: later →
      step.KeepsBalance (.after before')) : (World.after before).Balanced := by
  rcases List.eq_nil_or_concat before with rfl | ⟨before', step, rfl⟩
  · exact balanced_initial
  · have hlast := h before' step [] (by simp)
    rw [List.concat_eq_append, World.after_concat]
    exact hlast.balanced

/-- The global state stays in balance in exactly those sequences whose steps are careful. -/
theorem keepBalance_iff (steps : List Step) : KeepBalance steps ↔ AllCareful steps := by
  constructor
  · intro hkeep before step later heq
    have hbalanced : (World.after before).Balanced := by
      refine balanced_of_steps before fun before' step' later' heq' => ?_
      exact hkeep before' step' (later' ++ step :: later) (by simp [heq, heq'])
    exact (keepsBalance_iff hbalanced step).mp (hkeep before step later heq)
  · intro hcareful before
    -- the balance at the end of `before` is the invariant of the induction
    induction before using List.reverseRecOn with
    | nil =>
      intro step later heq
      exact (keepsBalance_iff balanced_initial step).mpr (hcareful [] step later heq)
    | append_singleton before last ih =>
      intro step later heq
      have hlast := ih last (step :: later) (by simp [heq])
      have hbalanced : (World.after (before ++ [last])).Balanced := by
        rw [World.after_concat]
        exact hlast.balanced
      exact (keepsBalance_iff hbalanced step).mpr (hcareful (before ++ [last]) step later heq)

omit [MessageBuffer] in
/-- A transport that is created when there is none. -/
theorem keepBalance_iff_create : @KeepBalance listMessageBuffer [.create {}] := by
  let _ := listMessageBuffer
  refine (keepBalance_iff _).mpr fun before step later heq => ?_
  cases before with
  | nil =>
    obtain rfl : .create {} = step := (List.cons.inj heq).1
    intro _
    exact {
      scheduleTimer := fun _ => rfl
      allocChannels := rfl
      traceHandleName := fun _ => rfl
      socket := rfl
      setNonBlocking := rfl
      setUpcall := rfl
      partialDeliveryPoint := fun _ => ⟨_, rfl, by decide⟩
      enableStreamReset := rfl
      recvrcvinfo := rfl
      linger := rfl
      nodelay := rfl
      explicitEor := rfl
      event := fun _ _ => rfl
      bind := rfl }
  | cons first before =>
    cases before <;> cases (List.cons.inj heq).2

omit [MessageBuffer] in
/-- A first creation whose timer cannot be started calls the detach handler. -/
theorem not_keepBalance_timer :
    letI := listMessageBuffer
    ¬ KeepBalance [.create { scheduleTimer := some ⟨.noMemory, by decide⟩ }] := by
  let _ := listMessageBuffer
  intro hkeep
  have hfirst := hkeep [] _ [] rfl
  have hgranted := (keepsBalance_iff balanced_initial _).mp hfirst ⟨rfl, rfl, .inr rfl⟩
  exact absurd (hgranted.scheduleTimer rfl) (by decide)

end Runs

end RawrtcDataChannel
