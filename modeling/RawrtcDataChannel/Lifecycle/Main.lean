import RawrtcDataChannel.Lifecycle.EventLoop

/-!
# The lifecycle of every run

The entry points together: under the conditions of `Allowed`, every entry point keeps the
contract, so the lifecycle invariant holds in every state that any run of the library reaches,
with handlers that use the library again, to any depth.

The conditions of `Allowed` exclude two things the code does not cope with: closing a channel
while the handler that announces it is running, and stopping the transport while some suspended
routine goes on as if it had not been stopped.
-/

namespace RawrtcDataChannel

open Reentrant

/-! ## Section 1: What the surroundings may do -/

/-- The entry points that handlers may use. -/
def Call.FromHandler : Call → Prop
  | .create _ _ | .send _ _ _ | .close _ | .stop => True
  | .setStreaming _ _ | .setOpenHandler _ _ | .setBufferedAmountLowHandler _ _ => True
  | .setCloseHandler _ _ | .setMessageHandler _ _ | .unsetHandlers _ => True
  | .setDataChannelHandler _ | .setStateChangeHandler _ => True
  | _ => False

/-- The entry points that may make a channel. -/
def Call.MayCreate : Call → Prop
  | .create _ _ | .readEvent _ => True
  | _ => False

/-- The stream id of incoming data is below `n`. -/
def Call.SidBelow (n : Nat) : Call → Prop
  | .readEvent received => received.SidBelow n
  | _ => True

/-- When an entry point may be used. -/
structure Allowed (L : Limits) (fs : List (Call × Op)) (s : Transport) (a : Call) : Prop where
  /-- Only handlers use the library while something is suspended. -/
  handler : ∀ f fs', fs = f :: fs' → f.2.isHandler = true ∧ a.FromHandler
  /-- No channel is closed while it is being announced. -/
  close : ∀ c, a = .close c → ¬ (ongoing fs).registering c
  /-- The transport is not stopped while somebody relies on it. -/
  stop : a = .stop → (ongoing fs).frozen → s.stopped
  maxChannels : a.MayCreate → (s.nextChannel + 1 : ℕ) ≤ L.maxChannels
  sidsBelow : L.sidsBelow → a.SidBelow s.nChannels

/-! ## Section 2: Every entry point keeps the contract -/

section Main

variable [MessageBuffer] {L : Limits} {fs : List (Call × Op)} {s : Transport}

omit [MessageBuffer] in
theorem Allowed.nil {a : Call} (h : Allowed L fs s a) (ha : ¬ a.FromHandler) : fs = [] := by
  cases fs with
  | nil => rfl
  | cons f fs => exact absurd (h.handler f fs rfl).2 ha

omit [MessageBuffer] in
/-- What a call has to establish at its end. -/
theorem Allowed.post {a : Call} (h : Allowed L fs s a) {s' : Transport}
    (hinv : Inv L (ongoing fs) s'.view) (hrely : Rely (ongoing fs) s.view s'.view) :
    (contract L).inv fs s' ∧ (contract L).rely fs s s' := by
  cases fs with
  | nil => exact ⟨⟨hinv, trivial⟩, hrely⟩
  | cons f fs =>
    have ho := (h.handler f fs rfl).1
    refine ⟨⟨hinv, ?_⟩, ?_⟩
    · obtain ⟨b, o⟩ := f
      cases o <;> trivial
    · change relies (f :: fs) s s'
      simp only [relies, ho, if_true]
      exact hrely

/-- Every entry point that may be used keeps the contract. -/
theorem call_safe (a : Call) (hinv : (contract L).inv fs s) (h : Allowed L fs s a) :
    (a.run.run s).Safe (contract L) a fs s
      fun _ s' => (contract L).inv fs s' ∧ (contract L).rely fs s s' := by
  have hat : At L a fs s s := .enter hinv.1
  -- all entry points but the ones that open something end in the same way
  have hdone : ¬ a.Opens → ∀ s', At L a fs s s' → Rely (ongoing fs) s.view s'.view →
      (contract L).inv fs s' ∧ (contract L).rely fs s s' :=
    fun hnot s' hat' hrely => h.post (hat'.done hnot) hrely
  have hsame : ¬ a.Opens → ∀ s', s'.view = s.view →
      (contract L).inv fs s' ∧ (contract L).rely fs s s' :=
    fun hnot s' heq => hdone hnot s' (hat.quiet (.of_eq heq)) (Rely.quiet (.of_eq heq))
  -- setting handlers does not show in the view
  have hhandlers : ∀ (c : ChannelId) (f : DataChannelHandlers → DataChannelHandlers), ¬ a.Opens →
      (Routine.run (Result.code <$> dataChannelSetHandler c f) s).Safe (contract L) a fs s
        fun _ s' => (contract L).inv fs s' ∧ (contract L).rely fs s s' :=
    fun c f hnot => hsame hnot _ (s.view_handlers c fun ch => f ch.handlers)
  cases a with
  | start n =>
    -- it may not be called from a handler
    obtain rfl := h.nil id
    simp only [Call.run, Routine.run_map, Prog.safe_bind, Prog.safe_ret]
    exact sctpTransportStart_safe n hat ⟨n, rfl⟩ fun _ => hdone (by simp [Call.Opens])
  | stop =>
    simp only [Call.run, Routine.run_map, Prog.safe_bind, Prog.safe_ret]
    exact sctpTransportStop_safe hat (h.stop rfl) fun _ => hdone (by simp [Call.Opens])
  | destroy =>
    obtain rfl := h.nil id
    simp only [Call.run, Routine.run_map, Prog.safe_bind, Prog.safe_ret]
    refine sctpTransportDestroy_safe hat ?_ (hdone (by simp [Call.Opens]))
    exact fun hf => absurd hf (by simp [ongoing])
  | create parameters handlers =>
    simp only [Call.run, dataChannelCreate, Routine.run_map, Prog.safe_bind, Prog.safe_ret]
    exact dataChannelCreateInternal_safe hat parameters handlers true (h.maxChannels trivial)
      fun _ s' hat' hrely _ => hdone (by simp [Call.Opens]) s' hat' hrely
  | send c buffer isBinary =>
    simp only [Call.run, Routine.run_map, Prog.safe_bind, Prog.safe_ret]
    exact dataChannelSend_safe hat buffer isBinary fun _ => hdone (by simp [Call.Opens])
  | close c =>
    simp only [Call.run, Routine.run_map, Prog.safe_bind, Prog.safe_ret]
    exact dataChannelClose_safe hat (fun _ => h.close c rfl)
      fun _ s' hat' hrely _ => hdone (by simp [Call.Opens]) s' hat' hrely
  -- the calls that follow leave the view as it is
  | setStreaming c on =>
    simp only [Call.run, Routine.run_map, Prog.safe_bind, Prog.safe_ret]
    exact dataChannelSetStreaming_safe on fun _ => hsame (by simp [Call.Opens])
  | setOpenHandler c on => exact hhandlers c _ (by simp [Call.Opens])
  | setBufferedAmountLowHandler c on => exact hhandlers c _ (by simp [Call.Opens])
  | setCloseHandler c on => exact hhandlers c _ (by simp [Call.Opens])
  | setMessageHandler c on => exact hhandlers c _ (by simp [Call.Opens])
  | unsetHandlers c => exact hhandlers c (fun _ => {}) (by simp [Call.Opens])
  | setDataChannelHandler on => exact hsame (by simp [Call.Opens]) _ rfl
  | setStateChangeHandler on => exact hsame (by simp [Call.Opens]) _ rfl
  | feedInbound buffer => exact hsame (by simp [Call.Opens]) s rfl
  | errorEvent =>
    simp only [Call.run, errorEventHandler, Routine.run_map, Routine.run_bind, Routine.run_get,
      Prog.bind, Routine.run_ite, Prog.safe_bind, Prog.safe_ret]
    split <;> exact hsame (by simp [Call.Opens]) s rfl
  | readEvent received =>
    -- events only come in while nothing is suspended
    obtain rfl := h.nil id
    simp only [Call.run, Routine.run_map, Prog.safe_bind, Prog.safe_ret]
    exact readEventHandler_safe received hinv.1 rfl h.sidsBelow (h.maxChannels trivial)
      fun _ s' hinv' hrely => h.post hinv' hrely
  | writeEvent =>
    simp only [Call.run, Routine.run_map, Prog.safe_bind, Prog.safe_ret]
    exact writeEventHandler_safe hat fun _ => hdone (by simp [Call.Opens])

/-! ## Section 3: Every reachable state -/

/-- The library with surroundings that keep to `permits`. Any operation may have any outcome. -/
def host (permits : List (Call × Op) → Transport → Call → Prop) :
    Host Call Op Op.Reply Transport Result where
  code := Call.run
  permits := permits
  answers _ _ _ := True

instance {permits : List (Call × Op) → Transport → Call → Prop}
    [∀ fs s a, Decidable (permits fs s a)] (fs : List (Call × Op)) (s : Transport) (a : Call) :
    Decidable ((host permits).permits fs s a) :=
  inferInstanceAs (Decidable (permits fs s a))

omit [MessageBuffer] in
/-- The library with a message buffer on plain lists. -/
abbrev listHost (permits : List (Call × Op) → Transport → Call → Prop) :
    Host Call Op Op.Reply Transport Result :=
  @host listMessageBuffer permits

omit [MessageBuffer] in
theorem create_inv (dataChannelHandler stateChangeHandler destroyedHandler traceHandle : Bool)
    (usrsctpChunkSize : Nat) :
    (contract L).inv [] (.create dataChannelHandler stateChangeHandler destroyedHandler
      traceHandle usrsctpChunkSize) := by
  refine ⟨⟨?_, ?_, ?_⟩, trivial⟩
  · constructor <;> simp [Transport.create, Transport.view, DataChannel.view]
  · constructor <;> simp [Transport.create, Transport.view, DataChannel.view]
  · constructor <;> simp [Transport.create, Transport.view, defaultNumberOfStreams]

/-- **The lifecycle invariant holds in every reachable state**, if the surroundings only do what
    is allowed. -/
theorem reachable_inv {permits : List (Call × Op) → Transport → Call → Prop}
    (hpermits : ∀ fs s a, permits fs s a → Allowed L fs s a) {s₀ : Transport}
    (hinit : (contract L).inv [] s₀) {c : Config Call Op Op.Reply Transport Result}
    (hc : Reachable (host permits) s₀ c) : (contract L).inv (pending c.stack) c.state :=
  reachable_invariant (C := contract L) relies_refl relies_trans (fun _ _ _ _ => trivial)
    (fun a fs s hinv hp => call_safe a hinv (hpermits fs s a hp)) hinit hc

/-! ## Section 4: A connected transport -/

omit [MessageBuffer] in
/-- A transport that has been started and connected and does not report its states. -/
def Transport.createConnected (dataChannelHandler destroyedHandler traceHandle : Bool)
    (usrsctpChunkSize : Nat) : Transport :=
  (((((Transport.create dataChannelHandler false destroyedHandler traceHandle
    usrsctpChunkSize).setState .connecting).log (.transportState .connecting)).setState
    .connected).log (.transportState .connected))

/-- If idle transports may be used freely, they can be connected. -/
theorem reachable_connected {permits : List (Call × Op) → Transport → Call → Prop}
    (hidle : ∀ s a, permits [] s a) (dataChannelHandler destroyedHandler traceHandle : Bool)
    (usrsctpChunkSize maxMessageSize : Nat) :
    Reachable (host permits)
      (.create dataChannelHandler false destroyedHandler traceHandle usrsctpChunkSize)
      ⟨(Transport.createConnected dataChannelHandler destroyedHandler traceHandle
        usrsctpChunkSize).setRemoteMaximumMessageSize maxMessageSize, []⟩ := by
  let s₀ : Transport := .create dataChannelHandler false destroyedHandler traceHandle
    usrsctpChunkSize
  have hstarted : Reachable (host permits) s₀
      ⟨((s₀.setRemoteMaximumMessageSize maxMessageSize).setState .connecting).log
        (.transportState .connecting), []⟩ :=
    Reachable.start.enter_outcome (hidle s₀ (.start maxMessageSize))
      (start_outcome (fun _ => trivial) (fun _ _ => trivial) rfl rfl rfl maxMessageSize)
  exact hstarted.enter_outcome (hidle _ .commUp)
    (commUp_outcome (fun _ => trivial) rfl rfl (fun _ => rfl) rfl rfl)

end Main

end RawrtcDataChannel
