import RawrtcDataChannel.Lifecycle.Main
import RawrtcDataChannel.Slots.Handlers

/-!
# The slots are in order at all times

Every entry point of the library keeps the slots in order, so they are in order whenever the
application is running, however deep its handlers have used the library again.
-/

namespace RawrtcDataChannel

open Reentrant

/-! ## Section 1: Creating a channel -/

section Create

variable [MessageBuffer] {answers : Answers} {s₀ s : Transport} {a : Call} {fs : List (Call × Op)}
  {c : ChannelId}

/-- A channel that has just been made is registered, or it still has no stream id. -/
theorem channelCreateHandler_tracked (hs : Tracked s₀ s) (hnew : s.streamId c = none)
    (hlt : c < s.nextChannel) (hown : s₀.nextChannel ≤ c) (parameters : DataChannelParameters)
    (s₁ : Transport) :
    ((channelCreateHandler c parameters).run s).Safe (keepingSids answers s₀) a fs s₁ fun error s' =>
      Tracked s₀ s' ∧ FollowsBut (· = c) s s' ∧
        (error ≠ .success → s'.streamId c = none ∧ c < s'.nextChannel) := by
  -- however the stream is chosen, no application code runs before it is registered
  have hrest : ∀ {m : M (Except Code Context)}, m.Within Op.IsSystem Steady →
      ((m >>= registerCreatedChannel c).run s).Safe (keepingSids answers s₀) a fs s₁ fun error s' =>
        Tracked s₀ s' ∧ FollowsBut (· = c) s s' ∧
          (error ≠ .success → s'.streamId c = none ∧ c < s'.nextChannel) := by
    intro m hcontext
    apply (safe_of_within (hcontext s) s₁).bind
    intro r s₂ hsteady
    have hs₂ := hs.steady hsteady
    have hnew₂ : s₂.streamId c = none := by rw [hsteady.streamId, hnew]
    have hlt₂ : c < s₂.nextChannel := by rw [hsteady.nextChannel]; exact hlt
    cases r with
    | error error => exact ⟨hs₂, hsteady.follows.but, fun _ => ⟨hnew₂, hlt₂⟩⟩
    | ok context =>
      have hregister : ((channelRegister c context false).run s₂).Safe (keepingSids answers s₀) a fs
          s₁ fun _ s' => Tracked s₀ s' ∧ FollowsBut (· = c) s₂ s' := by
        rw [← Noting.unmarked_channelRegister]
        exact (Noting.channelRegister_runs hs₂ hnew₂ hlt₂ hown False.elim false).unmarked s₁
      apply Prog.Safe.bind hregister
      intro _ s₃ h₃
      exact ⟨h₃.1, trans_of (FollowsBut (· = c)) hsteady.follows.but h₃.2,
        fun h => absurd rfl h⟩
  unfold channelCreateHandler
  rw [Routine.run_ite]
  split
  · exact hrest (channelCreateNegotiated_within parameters)
  · exact hrest (channelCreateInband_within parameters)

theorem dataChannelCreate_orderly (parameters : DataChannelParameters)
    (handlers : DataChannelHandlers) :
    Orderly answers s₀ a fs (dataChannelCreate parameters handlers) := by
  intro s₁ s hs
  have halloc : alloc.Within Op.IsSystem (· = ·) := alloc_within
  apply (safe_of_within (halloc s) s₁).bind
  rintro ok s' rfl
  cases ok with
  | false => exact ⟨hs, refl_of Follows s⟩
  | true =>
    have hmade := allocates_modify s parameters handlers
    obtain ⟨hs₂, hf₂⟩ := hmade.tracked hs
    have hlt : s.nextChannel < s.nextChannel + 1 := Nat.lt_succ_self _
    apply (channelCreateHandler_tracked hs₂ hmade.new hlt hs.follows.nextChannel parameters s₁).bind
    intro error s₃ h₃
    obtain ⟨hs₃, hbut, hleft⟩ := h₃
    -- the channel has not existed before
    have hf₃ : Follows s s₃ := by
      refine ⟨hbut.nChannels, (Nat.le_succ _).trans hbut.nextChannel, ?_⟩
      intro c hc _
      rw [hbut.streamId c (hc.trans hlt) (Nat.ne_of_lt hc)]
      exact hf₂.streamId c hc id
    rw [Routine.run_ite]
    split
    · have hinit := Steady.modifyChannel s₃ s.nextChannel
        (fun ch => { ch with flags := { ch.flags with initialized := true } }) fun _ => rfl
      exact ⟨hs₃.steady hinit, trans_of Follows hf₃ hinit.follows⟩
    · next herror =>
      obtain ⟨hnew, hlt₃⟩ := hleft herror
      have hdestroy : ((dataChannelDestroy s.nextChannel).run s₃).Safe (keepingSids answers s₀) a fs
          s₁ (Goes s₀ s₃) := by
        rw [← Noting.unmarked_dataChannelDestroy]
        exact (Noting.dataChannelDestroy_runs hs₃ hlt₃ hnew).unmarked s₁
      apply Prog.Safe.bind hdestroy
      intro _ s₄ h₄
      exact ⟨h₄.1, trans_of Follows hf₃ h₄.2⟩

end Create

/-! ## Section 2: All entry points -/

section Calls

variable [MessageBuffer] {answers : Answers} {s₀ : Transport} {a : Call} {fs : List (Call × Op)}

omit [MessageBuffer] in
theorem dataChannelClose_orderly (c : ChannelId) : Orderly answers s₀ a fs (dataChannelClose c) := by
  rw [← Noting.unmarked_dataChannelClose]
  exact orderly_of_runs fun s hs => Noting.dataChannelClose_runs hs False.elim

theorem readEventHandler_orderly (received : Received) :
    Orderly answers s₀ a fs (readEventHandler received) := by
  rw [← Noting.unmarked_readEventHandler]
  exact orderly_of_runs fun s hs => Noting.readEventHandler_runs hs False.elim

/-- **No entry point brings the slots into disorder.** -/
theorem Call.run_orderly (call : Call) : Orderly answers s₀ a fs call.run := by
  have hflag : ∀ f : Transport → Transport, (∀ s, Steady s (f s)) →
      Orderly answers s₀ a fs (do modify f; return Result.code .success : M Result) :=
    fun f hf => (orderly_modify hf).bind fun _ => Routine.guarded_pure _
  cases call with
  | start maxMessageSize => exact (sctpTransportStart_orderly maxMessageSize).map _
  | stop => exact sctpTransportStop_orderly.map _
  | destroy => exact sctpTransportDestroy_orderly.map _
  | create parameters handlers => exact (dataChannelCreate_orderly parameters handlers).map _
  | send c buffer isBinary => exact (dataChannelSend_orderly c buffer isBinary).map _
  | close c => exact (dataChannelClose_orderly c).map _
  | setStreaming c on => exact (dataChannelSetStreaming_orderly c on).map _
  | setOpenHandler c on => exact (dataChannelSetHandler_orderly c _).map _
  | setBufferedAmountLowHandler c on => exact (dataChannelSetHandler_orderly c _).map _
  | setCloseHandler c on => exact (dataChannelSetHandler_orderly c _).map _
  | setMessageHandler c on => exact (dataChannelSetHandler_orderly c _).map _
  | unsetHandlers c => exact (dataChannelSetHandler_orderly c fun _ => {}).map _
  | setDataChannelHandler on => exact hflag _ fun _ => .of_eq rfl rfl rfl rfl
  | setStateChangeHandler on => exact hflag _ fun _ => .of_eq rfl rfl rfl rfl
  | feedInbound buffer => exact orderly_get_bind fun t => Routine.guarded_pure _
  | errorEvent =>
    have herror : Orderly answers s₀ a fs errorEventHandler := by
      apply orderly_get_bind
      intro t
      exact Routine.Guarded.ite (Routine.guarded_pure _) (Routine.guarded_pure _)
    exact herror.map _
  | readEvent received => exact (readEventHandler_orderly received).map _
  | writeEvent => exact writeEventHandler_orderly.map _

/-! ## Section 3: Every reachable state -/

/-- The library with an application and an event loop that may do anything at any time, as long as
    one of them is running. -/
def openHost : Host Call Op Op.Reply Transport Result :=
  host fun fs _ _ => ApplicationsTurn fs

/-- **The slots are in order whenever the application is running**, if they were in the
    beginning. -/
theorem reachable_tracked {s₀ : Transport} (hs₀ : SidsKnown s₀)
    {config : Config Call Op Op.Reply Transport Result} (hreach : Reachable openHost s₀ config)
    (hturn : ApplicationsTurn (pending config.stack)) : Tracked s₀ config.state := by
  let anything : Answers := fun _ _ _ => True
  -- while the application has control, only more can have happened
  have hrely : ∀ fs s s', ApplicationsTurn fs → Follows s s' →
      (keepingSids anything s₀).rely fs s s' := by
    intro fs s s' hfs hfollows
    cases fs with
    | nil => exact hfollows
    | cons f fs =>
      have hhandler : f.2.isHandler = true := hfs f rfl
      simpa only [keepingSids, hhandler, if_true] using hfollows
  refine reachable_invariant (C := keepingSids anything s₀) ?_ ?_ (fun _ _ _ _ => trivial) ?_
    (fun _ => ⟨hs₀, refl_of Follows s₀⟩) hreach hturn
  · intro fs s
    cases fs with
    | nil => exact refl_of Follows s
    | cons f fs =>
      simp only [keepingSids]
      split
      · exact refl_of Follows s
      · trivial
  · intro fs s₁ s₂ s₃ h h'
    cases fs with
    | nil => exact trans_of Follows h h'
    | cons f fs =>
      simp only [keepingSids] at h h' ⊢
      split at h
      · next hhandler =>
        rw [if_pos hhandler] at h' ⊢
        exact trans_of Follows h h'
      · next hsystem =>
        rw [if_neg hsystem] at h' ⊢
        exact h'.trans h
  · -- every entry point keeps track
    intro a fs s hs hfs
    apply (Call.run_orderly a s s (hs hfs)).mono
    intro _ s' h
    exact ⟨fun _ => h.1, hrely fs s s' hfs h.2⟩

end Calls

end RawrtcDataChannel
