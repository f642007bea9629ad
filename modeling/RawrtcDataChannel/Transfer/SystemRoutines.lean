import RawrtcDataChannel.Transfer.Frames

/-!
# Routines that only call system functions

Building and parsing messages, queueing them and handing them to SCTP: while such a routine runs,
no handler of the application is called, so nobody else uses the library. All of them are about
any preorder `R` on transports that allows the little they change.
-/

namespace RawrtcDataChannel

open Reentrant

/-! ## Section 1: Messages -/

section Messages

variable {R : Transport → Transport → Prop} [IsPreorder Transport R]

theorem mbufStrdup_within (buffer : Mbuf) (length : Nat) :
    (mbufStrdup buffer length).Within Op.IsSystem R := by
  apply Routine.Within.ite _ (Routine.within_pure _)
  apply alloc_within.bind
  intro ok
  exact Routine.Within.ite (Routine.within_pure _) (Routine.within_pure _)

theorem dataChannelOpenMessageParse_within (id : Nat) (buffer : Mbuf) :
    (dataChannelOpenMessageParse id buffer).Within Op.IsSystem R := by
  apply Routine.Within.ite (Routine.within_pure _)
  rcases buffer.readU8 with ⟨channelType, buffer⟩
  rcases buffer.readU16 with ⟨priority, buffer⟩
  rcases buffer.readU32 with ⟨reliabilityParameter, buffer⟩
  rcases buffer.readU16 with ⟨labelLength, buffer⟩
  rcases buffer.readU16 with ⟨protocolLength, buffer⟩
  dsimp only
  cases DataChannelType.ofByte? channelType with
  | none => exact Routine.within_pure _
  | some channelType =>
    apply Routine.Within.ite (Routine.within_pure _)
    apply (mbufStrdup_within _ _).bind
    intro label
    cases label with
    | error error => exact Routine.within_pure _
    | ok label =>
      apply Routine.Within.ite (Routine.within_pure _)
      apply (mbufStrdup_within _ _).bind
      intro protocol
      cases protocol with
      | error error => exact Routine.within_pure _
      | ok protocol =>
        apply Routine.Within.bind
        · apply alloc_within.bind
          intro ok
          exact Routine.Within.ite (Routine.within_pure _) (Routine.within_pure _)
        · intro parameters
          cases parameters <;> exact Routine.within_pure _

theorem sctpTransportGetDataTransport_within :
    sctpTransportGetDataTransport.Within Op.IsSystem R := by
  apply Routine.within_get.bind
  intro t
  apply Routine.Within.ite (Routine.within_pure _)
  apply alloc_within.bind
  intro ok
  exact Routine.Within.ite (Routine.within_pure _) (Routine.within_pure _)

theorem bufferMessageReceivedRaiseComplete_within (bufferInbound : Option Mbuf)
    (infoInbound : RcvInfo) (messageBuffer : Mbuf) (info : RcvInfo) (eor : Bool) :
    (bufferMessageReceivedRaiseComplete bufferInbound infoInbound messageBuffer info eor).Within
      Op.IsSystem R := by
  unfold bufferMessageReceivedRaiseComplete
  cases bufferInbound with
  | none => exact Routine.Within.ite (Routine.within_pure _) (Routine.within_pure _)
  | some buffer =>
    apply alloc_within.bind
    intro ok
    apply Routine.Within.ite _ (Routine.within_pure _)
    exact Routine.Within.ite (Routine.within_pure _) (Routine.within_pure _)

theorem channelContextCreate_within (sid : Nat) (canSendUnordered : Bool) :
    (channelContextCreate sid canSendUnordered).Within Op.IsSystem R := by
  apply alloc_within.bind
  intro ok
  exact Routine.Within.ite (Routine.within_pure _) (Routine.within_pure _)

theorem channelCreateNegotiated_within (parameters : DataChannelParameters) :
    (channelCreateNegotiated parameters).Within Op.IsSystem R := by
  apply Routine.within_get.bind
  intro t
  exact Routine.Within.ite (Routine.within_pure _) (channelContextCreate_within _ _)

theorem dataChannelOpenMessageCreate_within (parameters : DataChannelParameters) :
    (dataChannelOpenMessageCreate parameters).Within Op.IsSystem R := by
  apply Routine.Within.ite (Routine.within_pure _)
  apply alloc_within.bind
  intro ok
  exact Routine.Within.ite (Routine.within_pure _) (Routine.within_pure _)

theorem dataChannelAckMessageCreate_within : dataChannelAckMessageCreate.Within Op.IsSystem R := by
  apply alloc_within.bind
  intro ok
  exact Routine.Within.ite (Routine.within_pure _) (Routine.within_pure _)

/-- The number of bytes usrsctp may put into a packet is set. -/
theorem sctpTransportSetMtu_within (mtu : Nat) :
    (sctpTransportSetMtu mtu).Within Op.IsSystem R := by
  apply Routine.within_get.bind
  intro t
  apply Routine.Within.ite (Routine.within_pure _)
  apply Routine.Within.ite (Routine.within_pure _)
  apply (system_within (o := .setPeerAddrParams mtu) rfl).bind
  intro error
  cases error <;> exact Routine.within_pure _

/-- A stream reset is requested, and this is written down. -/
theorem requestStreamReset_within {c : ChannelId}
    (hlog : ∀ s sid error, R s (s.log (.resetStreams c sid error)))
    (hshort : ∀ s, R s (s.log (.resetNoMemory c))) :
    (requestStreamReset c).Within Op.IsSystem R := by
  apply alloc_within.bind
  intro ok
  apply Routine.Within.ite _ ((Routine.within_modify hshort).bind fun _ => Routine.within_pure _)
  apply Routine.within_get.bind
  intro t
  apply Routine.Within.bind
  · apply (system_within (o := .resetStreams (t.context c).sid) rfl).bind
    intro error
    apply (Routine.within_modify fun s => hlog s _ _).bind
    intro _
    exact Routine.within_pure _
  · intro error
    cases error <;> exact Routine.within_pure _

end Messages

/-! ## Section 2: Sending -/

/-- A preorder that allows everything `send_message` does. -/
class SendFrame (R : Transport → Transport → Prop) : Prop extends IsPreorder Transport R where
  sends (s s' : Transport) : SendsOnly s s' → R s s'
  log (s : Transport) (info : SendvSpa) (message : Bytes) : R s (s.log (.sendMessage info message))

section Send

variable [MessageBuffer] {R : Transport → Transport → Prop} [SendFrame R]

omit [MessageBuffer] in
theorem within_of_sendsOnly {α : Type} {m : M α} (h : m.Within Op.IsSystem SendsOnly) :
    m.Within Op.IsSystem R :=
  h.mono fun s s' => SendFrame.sends s s'

/-- `send_message`. -/
theorem sendMessage_within (channel : Option ChannelId) (context : Context) (buffer : Mbuf)
    (ppid : Nat) : (sendMessage channel context buffer ppid).Within Op.IsSystem R := by
  apply Routine.within_get.bind
  intro t
  apply Routine.Within.ite
  · apply (Routine.within_modify fun s => SendFrame.log s _ _).bind
    intro _
    exact within_of_sendsOnly (sctpSend_within _ _ _)
  · cases channel with
    | none => exact Routine.within_pure _
    | some c =>
      apply (Routine.within_modify fun s => SendFrame.log s _ _).bind
      intro _
      exact within_of_sendsOnly (sctpSend_within _ _ _)

theorem channelCreateInband_within (parameters : DataChannelParameters) :
    (channelCreateInband parameters).Within Op.IsSystem R := by
  apply (system_within (o := .stateGetter) rfl).bind
  intro state
  cases state with
  | error error => exact Routine.within_pure _
  | ok dtlsTransportState =>
    apply Routine.Within.ite (Routine.within_pure _)
    apply (system_within (o := .roleGetter) rfl).bind
    intro role
    cases role with
    | error error => exact Routine.within_pure _
    | ok dtlsRole =>
      dsimp only
      cases firstSid dtlsRole with
      | none => exact Routine.within_pure _
      | some i =>
        apply Routine.within_get.bind
        intro t
        cases findFreeSid t t.nChannels i with
        | none => exact Routine.within_pure _
        | some i =>
          apply (channelContextCreate_within _ _).bind
          intro context
          cases context with
          | error error => exact Routine.within_pure _
          | ok context =>
            apply (dataChannelOpenMessageCreate_within _).bind
            intro buffer
            cases buffer with
            | error error => exact Routine.within_pure _
            | ok buffer =>
              apply (sendMessage_within _ _ _ _).bind
              intro error
              exact Routine.Within.ite (Routine.within_pure _) (Routine.within_pure _)

end Send

end RawrtcDataChannel
