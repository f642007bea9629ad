import RawrtcDataChannel.Transfer.Inbound
import RawrtcDataChannel.Transfer.Wire

/-!
# Messages of data channels

What `channel_send_handler` passes to SCTP for a message, and what `handle_application_message`
makes of its pieces. Both know a format: the payload protocol identifier says whether a message is
a string or binary and whether it is empty, and an empty message is sent as one byte.
-/

namespace RawrtcDataChannel

open Reentrant Reassembly

/-! ## Section 1: The format -/

/-- A message as the application sees it. -/
structure UserMessage where
  bytes : Bytes
  isBinary : Bool
deriving DecidableEq

namespace UserMessage

/-- What `rawrtc_data_channel_send` is called with. There may be no buffer if the message is
    empty. -/
def ofBuffer (buffer : Option Mbuf) (isBinary : Bool) : UserMessage :=
  ⟨(buffer.map Mbuf.rest).getD [], isBinary⟩

/-- The payload protocol identifier. -/
def ppid (m : UserMessage) : Nat :=
  if m.bytes = [] then
    if m.isBinary then ppidBinaryEmpty else ppidUtf16Empty
  else
    if m.isBinary then ppidBinary else ppidUtf16

/-- The bytes that are sent. -/
def payload (m : UserMessage) : Bytes :=
  if m.bytes = [] then [0] else m.bytes

/-- The message on a stream. -/
def record (m : UserMessage) (sid : Nat) : InboundMessage :=
  (⟨sid, m.ppid⟩, m.payload)

/-- The flags the message handler is called with. -/
def messageFlags (m : UserMessage) : MessageFlags :=
  { isComplete := true, isString := !m.isBinary, isBinary := m.isBinary }

variable (m : UserMessage)

theorem payload_ne_nil : m.payload ≠ [] := by
  unfold payload
  split
  · simp
  · assumption

theorem ppid_ne_dcep : m.ppid ≠ ppidDcep := by
  unfold ppid
  split <;> split <;> decide

theorem ppid_empty_iff : m.ppid = ppidUtf16Empty ∨ m.ppid = ppidBinaryEmpty ↔ m.bytes = [] := by
  unfold ppid
  constructor
  · intro h
    by_contra hne
    rw [if_neg hne] at h
    revert h
    split <;> decide
  · intro h
    rw [if_pos h]
    split
    · exact .inr rfl
    · exact .inl rfl

/-- No message is marked as partial. -/
theorem completes_eq (sid : Nat) (eor : Bool) : completes ⟨sid, m.ppid⟩ eor = eor := by
  unfold completes ppid
  cases eor <;> split <;> split <;> rfl

theorem messageFlagsOfPpid_eq : messageFlagsOfPpid m.ppid true = some m.messageFlags := by
  unfold ppid messageFlags
  cases m.isBinary <;> split <;> rfl

/-- Different messages look different on the wire. -/
theorem record_injective (sid : Nat) : Function.Injective fun m : UserMessage => m.record sid := by
  intro m m' h
  obtain ⟨bytes, isBinary⟩ := m
  obtain ⟨bytes', isBinary'⟩ := m'
  simp only [record, Prod.mk.injEq, RcvInfo.mk.injEq, true_and] at h
  obtain ⟨hppid, hpayload⟩ := h
  have hempty : bytes = [] ↔ bytes' = [] := by
    rw [← (UserMessage.mk bytes isBinary).ppid_empty_iff, hppid, ppid_empty_iff]
  have hkind : isBinary = isBinary' := by
    revert hppid
    simp only [ppid, hempty]
    cases isBinary <;> cases isBinary' <;> split <;> simp [ppidUtf16, ppidBinary, ppidUtf16Empty,
      ppidBinaryEmpty]
  have hbytes : bytes = bytes' := by
    by_cases hnil : bytes = []
    · rw [hnil, hempty.mp hnil]
    · simpa only [payload, if_neg hnil, if_neg (mt hempty.mpr hnil)] using hpayload
  rw [hkind, hbytes]

end UserMessage

/-! ## Section 2: Sending -/

section Send

variable [MessageBuffer] {answers : (o : Op) → Transport → o.Reply → Prop}

/-- The message is not longer than the peer allows. -/
def Transport.Fits (s : Transport) (m : UserMessage) : Prop :=
  s.remoteMaximumMessageSize = 0 ∨ m.bytes.length ≤ s.remoteMaximumMessageSize

/-- The channel is open, and the message is not longer than the peer allows. -/
def Transport.MaySend (s : Transport) (c : ChannelId) (m : UserMessage) : Prop :=
  (s.dataChannels c).state = .opened ∧ s.Fits m

/-- `channel_send_handler` where sends are accepted or deferred. -/
theorem channelSendHandler_always (hmemory : AmpleMemory answers)
    (hcontexts : AmpleContexts answers) (haccepts : AcceptsAll answers) (c : ChannelId)
    (buffer : Option Mbuf) (isBinary : Bool) (s : Transport) :
    ((channelSendHandler c buffer isBinary).run s).Always answers fun r s' =>
      r ≠ .success ∧ s' = s ∧ ¬ s.Fits (.ofBuffer buffer isBinary) ∨
      r = .success ∧ s.Fits (.ofBuffer buffer isBinary) ∧
        Passed (userSendInfo (s.dataChannels c) (s.context c)
          (UserMessage.ofBuffer buffer isBinary).ppid)
          (UserMessage.ofBuffer buffer isBinary).payload s s' := by
  generalize hm : UserMessage.ofBuffer buffer isBinary = m
  have hlength : (buffer.map Mbuf.getLeft).getD 0 = m.bytes.length := by
    rw [← hm]
    cases buffer <;> rfl
  have hbinary : m.isBinary = isBinary := by rw [← hm]; rfl
  simp only [channelSendHandler, Routine.run_bind, Routine.run_get, Prog.bind, Routine.run_ite,
    hlength, List.length_eq_zero_iff]
  split
  · next hempty =>
    -- an empty message
    have hppid : (if isBinary then ppidBinaryEmpty else ppidUtf16Empty) = m.ppid := by
      rw [UserMessage.ppid, if_pos hempty, hbinary]
    have hpayload : (Mbuf.mk [0] 0).rest = m.payload := by
      rw [UserMessage.payload, if_pos hempty]
      rfl
    simp only [run_alloc, Prog.bind]
    intro ok hok
    obtain rfl : ok = true := hmemory s ok hok
    simp only [if_true, hppid]
    rw [← hpayload]
    apply Prog.Always.mono (sendUserMessage_always hmemory hcontexts haccepts c _ (by simp)
      m.ppid_ne_dcep s)
    intro r s' h
    exact .inr ⟨h.1, .inr (by simp [hempty]), h.2⟩
  · next hbytes =>
    split
    · next hlong => exact .inl ⟨by decide, rfl, by simpa [Transport.Fits] using hlong⟩
    · next hshort =>
      have hppid : (if isBinary then ppidBinary else ppidUtf16) = m.ppid := by
        rw [UserMessage.ppid, if_neg hbytes, hbinary]
      have hpayload : (buffer.getD { data := [] }).rest = m.payload := by
        rw [UserMessage.payload, if_neg hbytes, ← hm]
        cases buffer <;> rfl
      have hne : (buffer.getD { data := [] }).rest ≠ [] := by
        rw [hpayload]
        exact m.payload_ne_nil
      rw [hppid, ← hpayload]
      apply Prog.Always.mono (sendUserMessage_always hmemory hcontexts haccepts c _ hne
        m.ppid_ne_dcep s)
      intro r s' h
      have hfits : s.Fits m := by
        unfold Transport.Fits
        by_contra hlong
        exact hshort (by simpa using hlong)
      exact .inr ⟨h.1, hfits, h.2⟩

/-- `rawrtc_data_channel_send` where sends are accepted or deferred: it refuses the message if the
    channel is not open or the message too long, and passes it to SCTP on the stream of the channel
    otherwise. -/
theorem dataChannelSend_always (hmemory : AmpleMemory answers)
    (hcontexts : AmpleContexts answers) (haccepts : AcceptsAll answers) (c : ChannelId)
    (buffer : Option Mbuf) (isBinary : Bool) (s : Transport) :
    ((dataChannelSend c buffer isBinary).run s).Always answers fun r s' =>
      r ≠ .success ∧ s' = s ∧ ¬ s.MaySend c (.ofBuffer buffer isBinary) ∨
      r = .success ∧ s.MaySend c (.ofBuffer buffer isBinary) ∧
        ∃ s₁, Passed (userSendInfo (s.dataChannels c) (s.context c)
          (UserMessage.ofBuffer buffer isBinary).ppid)
          (UserMessage.ofBuffer buffer isBinary).payload s s₁ ∧
            s' = s₁.log (.messageAccepted c) := by
  unfold dataChannelSend
  simp only [Routine.run_bind, Routine.run_get, Prog.bind, Routine.run_ite]
  split
  · next hclosed => exact .inl ⟨by decide, rfl, fun hmay => hclosed hmay.1⟩
  · next hopen =>
    rw [Prog.always_bind]
    apply Prog.Always.mono (channelSendHandler_always hmemory hcontexts haccepts c buffer isBinary
      s)
    intro r s₁ h
    simp only [run_logEvent, Prog.bind, Routine.run_pure]
    rcases h with ⟨hr, rfl, hlong⟩ | ⟨rfl, hfits, hpassed⟩
    · rw [if_neg hr]
      exact .inl ⟨hr, rfl, fun hmay => hlong hmay.2⟩
    · rw [if_pos rfl]
      exact .inr ⟨rfl, ⟨not_not.mp hopen, hfits⟩, s₁, hpassed, rfl⟩

end Send

/-! ## Section 3: Receiving -/

/-- A channel's context is updated twice. -/
@[simp] theorem Transport.modifyContext_modifyContext (s : Transport) (c : ChannelId)
    (f g : Context → Context) :
    (s.modifyContext c f).modifyContext c g = s.modifyContext c (g ∘ f) := by
  simp [Transport.modifyContext, Transport.modifyChannel, Option.map_map]

theorem Transport.dataChannels_modifyContext (s : Transport) (c : ChannelId)
    (f : Context → Context) : (s.modifyContext c f).dataChannels c =
      { s.dataChannels c with transportArg := (s.dataChannels c).transportArg.map f } := by
  simp [Transport.modifyContext, Transport.modifyChannel]

theorem Transport.dataChannels_modifyContext_of_ne (s : Transport) {c c' : ChannelId} (h : c' ≠ c)
    (f : Context → Context) : (s.modifyContext c f).dataChannels c' = s.dataChannels c' := by
  simp [Transport.modifyContext, Transport.modifyChannel, h]

/-- The context of a channel that has one. -/
theorem Transport.context_modifyContext {s : Transport} {c : ChannelId} {context : Context}
    (h : (s.dataChannels c).transportArg = some context) (f : Context → Context) :
    (s.modifyContext c f).context c = f context := by
  simp [Transport.context, s.dataChannels_modifyContext, h]

section Receive

variable {answers : (o : Op) → Transport → o.Reply → Prop} {s : Transport} {c : ChannelId}
  {context : Context}

/-- The message handler is called, and the buffer is released. -/
theorem passMessageToHandler_always
    (hhandler : (s.dataChannels c).handlers.messageHandler = true) (buffer : Mbuf)
    {ppid : Nat} {messageFlags : MessageFlags}
    (hflags : messageFlagsOfPpid ppid true = some messageFlags) :
    ((passMessageToHandler c buffer ppid true).run s).Always answers fun _ s' =>
      s' = (s.modifyContext c Context.releaseInbound).log
        (.handler (.messageHandler c (some buffer.rest) messageFlags)) := by
  simp only [passMessageToHandler, Routine.run_bind, Routine.run_get, Prog.bind, hflags,
    Routine.run_ite, if_pos hhandler, run_callHandler]
  intro _ _
  rfl

/-- `handle_application_message`, for a piece of a message on a channel that is not in streaming
    mode. -/
theorem handleApplicationMessage_always (hanswers : AmpleMemory answers) {sid : Nat}
    (hslot : s.channels sid = some c) (hcontext : (s.dataChannels c).transportArg = some context)
    (hwhole : (s.dataChannels c).flags.streamed = false)
    (hhandler : (s.dataChannels c).handlers.messageHandler = true)
    {unfinished : Option InboundMessage}
    (hheld : HeldAs context.bufferInbound context.infoInbound unfinished) (m : UserMessage)
    {before bytes rest : Bytes} (hextend : extend unfinished ⟨sid, m.ppid⟩ bytes =
      (⟨sid, m.ppid⟩, before ++ bytes)) (hbytes : bytes ≠ []) {eor : Bool}
    (hlast : eor = true → rest = []) (hmore : eor = false → rest ≠ [])
    (hpayload : before ++ (bytes ++ rest) = m.payload) :
    ((handleApplicationMessage { data := bytes } ⟨sid, m.ppid⟩ eor).run s).Always answers
      fun _ s' => ∃ f, if eor then
          s' = (s.modifyContext c f).log (.handler (.messageHandler c (some m.bytes) m.messageFlags)) ∧
            (f context).bufferInbound = none
        else s' = s.modifyContext c f ∧ HeldAs (f context).bufferInbound (f context).infoInbound
          (some (⟨sid, m.ppid⟩, before ++ bytes)) := by
  have hhandler' : ∀ f, ((s.modifyContext c f).dataChannels c).handlers.messageHandler = true := by
    intro f
    rw [s.dataChannels_modifyContext]
    exact hhandler
  have hwhole' : ∀ f, ((s.modifyContext c f).dataChannels c).flags.streamed = false := by
    intro f
    rw [s.dataChannels_modifyContext]
    exact hwhole
  simp only [handleApplicationMessage, Routine.run_bind, Routine.run_get, Prog.bind, hslot,
    Routine.run_modify, s.context_modifyContext hcontext]
  by_cases hempty : m.bytes = []
  · -- the one byte of an empty message is not split
    have heor : eor = true := by
      by_contra hnot
      have hrest := hmore (by simpa using hnot)
      rw [UserMessage.payload, if_pos hempty] at hpayload
      have hlength := congrArg List.length hpayload
      simp only [List.length_append, List.length_cons, List.length_nil] at hlength
      have h₁ := List.length_pos_iff.mpr hbytes
      have h₂ := List.length_pos_iff.mpr hrest
      omega
    subst heor
    have hwhole'' : ¬ (true = false) := by decide
    simp only [if_pos (m.ppid_empty_iff.mpr hempty), if_neg hwhole'', Routine.run_bind,
      Routine.run_modify, Prog.bind, Transport.modifyContext_modifyContext]
    apply Prog.Always.mono (passMessageToHandler_always (hhandler' _) _ m.messageFlagsOfPpid_eq)
    intro _ s' hs'
    refine ⟨Context.releaseInbound ∘ Context.storeInbound (some (Mbuf.skipToEnd { data := bytes }))
      false ∘ Context.allowUnordered, ?_⟩
    rw [if_pos trivial, hs', Mbuf.rest_skipToEnd, hempty, Transport.modifyContext_modifyContext]
    exact ⟨rfl, rfl⟩
  · have hppid : ¬ (m.ppid = ppidUtf16Empty ∨ m.ppid = ppidBinaryEmpty) := by
      rw [m.ppid_empty_iff]
      exact hempty
    simp only [if_neg hppid, hwhole', if_true, Routine.run_bind, Prog.always_bind]
    have hheld' : HeldAs context.allowUnordered.bufferInbound context.allowUnordered.infoInbound
        unfinished := hheld
    -- the piece is put behind what has been buffered of the message
    apply Prog.Always.mono (bufferMessageReceivedRaiseComplete_always hanswers hheld' bytes
      ⟨sid, m.ppid⟩ eor _)
    intro r s' hr
    obtain ⟨rfl, rfl⟩ := hr
    rw [m.completes_eq, hextend]
    cases eor with
    -- more is to come: nothing is handed over
    | false =>
      simp only [Bool.false_eq_true, if_false, Routine.run_modify, Prog.always_ret,
        Transport.modifyContext_modifyContext]
      let info : RcvInfo := ⟨sid, m.ppid⟩
      let buffer : Option Mbuf := some (.full (before ++ bytes))
      refine ⟨Context.storeInbound buffer true ∘ Context.keepInbound buffer info ∘
        Context.allowUnordered, rfl, rfl, rfl⟩
    -- this was the last piece, and the buffer holds the message
    | true =>
      obtain rfl := hlast rfl
      have hall : before ++ bytes = m.bytes := by
        rw [UserMessage.payload, if_neg hempty, List.append_nil] at hpayload
        exact hpayload
      simp only [if_true, Routine.run_bind, Routine.run_modify, Prog.bind, Prog.always_ret,
        Transport.modifyContext_modifyContext]
      apply Prog.Always.mono (passMessageToHandler_always (hhandler' _) _ m.messageFlagsOfPpid_eq)
      intro _ s' hs'
      let info : RcvInfo := ⟨sid, m.ppid⟩
      let buffer : Option Mbuf := some { data := before ++ bytes }
      refine ⟨Context.releaseInbound ∘ Context.storeInbound buffer false ∘
        Context.keepInbound buffer info ∘ Context.allowUnordered, ?_, rfl⟩
      rw [hs', Mbuf.rest_mk_zero, hall, Transport.modifyContext_modifyContext]
      rfl

end Receive

end RawrtcDataChannel
