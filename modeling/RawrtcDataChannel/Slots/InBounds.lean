import RawrtcDataChannel.Slots.EntryPoints

/-!
# Which uses of stream ids are in bounds

Messages are handled with whatever stream id they have, and there is a stream id more than there
are slots. The number of stream ids in a notification is computed from the length it declares, and
this length may be too short for the header. Anything else is checked: there is an access out of
bounds only where one of the two is. An OPEN message is handled only if the other side was allowed
to choose its stream id, which depends on the role of the DTLS transport.
-/

namespace RawrtcDataChannel

open Reentrant

/-! ## Section 1: What arrives -/

/-- A notification behind its type and length, as far as it is looked at. The list of a stream
    reset is whatever is in memory behind the header. -/
inductive NotificationBody
  | assocChange (state : AssociationState)
  | partialDelivery (pdapiStream : UInt32)
  | sendFailed
  | senderDry
  | shutdown
  | streamChange
  | streamReset (denied failed incomingSsn outgoingSsn : Bool) (strresetStreamList : Nat → UInt16)
  | other

/-- The number of stream ids `handle_stream_reset_event` computes. The length is converted to
    `size_t` first. -/
def streamResetEntries (strresetLength : UInt32) : Nat :=
  ((strresetLength.toUInt64 - UInt64.ofNat sizeofStreamResetEvent) / 2).toNat

/-- The notification, with as many stream ids as are going to be looked at. -/
def NotificationBody.toNotification (snLength : UInt32) : NotificationBody → Notification
  | assocChange state => .assocChange state
  | partialDelivery pdapiStream => .partialDelivery pdapiStream.toNat
  | sendFailed => .sendFailed
  | senderDry => .senderDry
  | shutdown => .shutdown
  | streamChange => .streamChange
  | streamReset denied failed incomingSsn outgoingSsn strresetStreamList => .streamReset
      { denied, failed, incomingSsn, outgoingSsn
        strresetStreamList := (List.range (streamResetEntries snLength)).map
          fun i => (strresetStreamList i).toNat }
  | other => .other

/-- What may come in: a chunk of a message, or a notification with the length it declares and the
    number of bytes that were received. -/
inductive Inbound
  | message (bytes : Bytes) (rcvSid : UInt16) (rcvPpid : UInt32) (eor : Bool)
  | notification (snLength : UInt32) (end_ : Nat) (body : NotificationBody)

/-- What `usrsctp_recvv` returns for it. -/
def Inbound.received : Inbound → Received
  | message bytes rcvSid rcvPpid eor => .data bytes (some ⟨rcvSid.toNat, rcvPpid.toNat⟩) eor
  | notification snLength end_ body =>
    .notification snLength.toNat end_ (body.toNotification snLength)

/-- The subtraction does not wrap if the header is there. -/
theorem streamResetEntries_of_le {strresetLength : UInt32}
    (h : sizeofStreamResetEvent ≤ strresetLength.toNat) :
    streamResetEntries strresetLength = (strresetLength.toNat - sizeofStreamResetEvent) / 2 := by
  have hlt := strresetLength.toNat_lt
  have hsub : UInt64.ofNat sizeofStreamResetEvent ≤ strresetLength.toUInt64 := by
    rw [UInt64.le_iff_toNat_le]
    simpa [sizeofStreamResetEvent] using h
  rw [streamResetEntries, UInt64.toNat_div, UInt64.toNat_sub_of_le _ _ hsub]
  rfl

/-- The list ends within what was received if and only if the header does. -/
theorem withstands_streamReset_iff (t : Transport) (snLength : UInt32)
    (denied failed incomingSsn outgoingSsn : Bool) (strresetStreamList : Nat → UInt16) :
    t.Withstands snLength.toNat snLength.toNat ((NotificationBody.streamReset denied failed
      incomingSsn outgoingSsn strresetStreamList).toNotification snLength) ↔
      sizeofStreamResetEvent ≤ snLength.toNat := by
  simp only [NotificationBody.toNotification, Transport.Withstands, Use.InBounds, List.length_map,
    List.length_range]
  constructor
  · exact And.left
  · intro h
    rw [streamResetEntries_of_le h]
    omega

/-! ## Section 2: Within bounds -/

section InBounds

variable [MessageBuffer]

omit [MessageBuffer] in
/-- The role getter returns this, and system functions return anything. -/
def withRole (role : Except Failure DtlsRole) : Answers
  | .roleGetter, _, r => r = role
  | _, _, _ => True

/-- What may happen when something is called. Handlers may use the library as they like. -/
def surroundings (role : Except Failure DtlsRole) (o : Op) (s : Transport) (r : o.Reply)
    (s' : Transport) : Prop :=
  if o.isHandler then Reachable openHost s ⟨s', []⟩ else s' = s ∧ withRole role o s r

/-- Whatever happens meanwhile, everything is in bounds while this is handled. -/
def Transport.UsesInBounds (t : Transport) (role : Except Failure DtlsRole) (inbound : Inbound) :
    Prop :=
  ((Noting.readEventHandler inbound.received).run t).MarksIn (surroundings role) Use.InBounds
    fun _ _ => True

omit [MessageBuffer] in
/-- A slot that is used for a message has to be one that exists. A notification that resets streams
    has to hold its header. -/
def Transport.Copes (t : Transport) (role : Except Failure DtlsRole) : Inbound → Prop
  | .message bytes rcvSid rcvPpid eor => t.flags.detached = false → t.state = .connected →
    ∀ sid, t.UsesSlot (withRole role) { data := bytes } ⟨rcvSid.toNat, rcvPpid.toNat⟩ eor sid →
      sid < t.nChannels
  | .notification snLength end_ (.streamReset _ _ _ _ _) => t.flags.detached = false →
    snLength.toNat = end_ → sizeofStreamResetEvent ≤ snLength.toNat
  | .notification _ _ _ => True

/-- Where the condition holds, the handlers stay within bounds, with any application. -/
theorem Transport.Copes.usesInBounds {t : Transport} {role : Except Failure DtlsRole}
    {inbound : Inbound} (hcopes : t.Copes role inbound) (ht : SidsKnown t) :
    t.UsesInBounds role inbound := by
  have hreceived : True → t.flags.detached = false →
      t.Tolerates (withRole role) inbound.received := by
    intro _ hattached
    cases inbound with
    | message bytes rcvSid rcvPpid eor =>
      rintro hconnected info' ⟨⟩
      exact hcopes hattached hconnected
    | notification snLength end_ body =>
      rintro rfl
      cases body with
      | streamReset denied failed incomingSsn outgoingSsn strresetStreamList =>
        apply (withstands_streamReset_iff t snLength _ _ _ _ _).mpr
        exact hcopes hattached rfl
      | assocChange | partialDelivery | sendFailed | senderDry | shutdown | streamChange | other =>
        trivial
  have hruns : Runs (withRole role) t True (.readEvent inbound.received) [] t
      (Noting.readEventHandler inbound.received) (Goes t t) :=
    Noting.readEventHandler_runs ⟨ht, refl_of Follows t⟩ hreceived
  refine ((hruns t).marksIn ?_).mono (fun _ _ hdue => hdue trivial) fun _ _ _ => trivial
  intro o s r s' hinv hworld
  unfold surroundings at hworld
  split at hworld
  · next hhandler =>
    -- a handler that is called finds the slots in order, and keeps them so
    have hs : Tracked t s := hinv fun f hf => by cases hf; exact hhandler
    have hs' : Tracked s s' := reachable_tracked hs.known hworld fun f hf => by cases hf
    refine ⟨fun _ => ⟨hs'.known, trans_of Follows hs.follows hs'.follows⟩, ?_, ?_⟩
    · simpa only [keepingSids, hhandler, if_true] using hs'.follows
    · cases o with
      | handler h => trivial
      | _ => cases hhandler
  · next hsystem =>
    obtain ⟨rfl, hanswer⟩ := hworld
    refine ⟨hinv, ?_, hanswer⟩
    simp only [keepingSids, if_neg hsystem]

/-! ## Section 3: Out of bounds -/

namespace Noting

variable {t : Transport} {role : Except Failure DtlsRole} {info : RcvInfo}

theorem handleDataChannelOpenMessage_marks {bufferIn : Mbuf} {Q : Unit → Transport → Prop}
    (h : ((handleDataChannelOpenMessage bufferIn info).run t).MarksIn (surroundings role)
      Use.InBounds Q) (hpeers : t.PeersSid (withRole role) info.rcvSid) :
    info.rcvSid < t.nChannels := by
  obtain ⟨dtlsRole, hrole, hpeer⟩ := hpeers
  have hnote := h (.ok dtlsRole) t ⟨rfl, hrole⟩
  have hparity : ¬ peerParity dtlsRole info.rcvSid = false := by simp [hpeer]
  simp only [Prog.lift, Prog.bind, if_neg hparity] at hnote
  exact hnote.1

/-- The buffer for the message can be allocated. -/
theorem bufferMessageReceivedRaiseComplete_marks {bufferInbound : Option Mbuf}
    {infoInbound : RcvInfo} {chunk : Mbuf} {Q : Code × Option Mbuf × RcvInfo → Transport → Prop}
    (hppid : info.rcvPpid = ppidDcep)
    (h : ((Routine.lift (bufferMessageReceivedRaiseComplete bufferInbound infoInbound chunk info
      true) : Noted _).run t).MarksIn (surroundings role) Use.InBounds Q) :
    Q (.success, some (completeMessage bufferInbound infoInbound chunk info).1,
      (completeMessage bufferInbound infoInbound chunk info).2) t := by
  have hcomplete : (true && info.rcvPpid != ppidUtf16Partial &&
      info.rcvPpid != ppidBinaryPartial) = true := by
    rw [hppid]
    decide
  simp only [bufferMessageReceivedRaiseComplete, hcomplete, if_true] at h
  cases bufferInbound with
  | none => exact h
  | some buffer => exact h true t ⟨rfl, trivial⟩

theorem handleDcepMessage_marks {chunk : Mbuf} {eor : Bool} {Q : Unit → Transport → Prop}
    (hppid : info.rcvPpid = ppidDcep)
    (h : ((handleDcepMessage chunk info eor).run t).MarksIn (surroundings role) Use.InBounds Q) :
    ∀ sid, t.UsesSlot (withRole role) chunk info eor sid → sid < t.nChannels := by
  intro sid huses
  simp only [Transport.UsesSlot, if_pos hppid, Transport.handling] at huses
  obtain ⟨rfl, rfl, htype⟩ := huses
  simp only [handleDcepMessage, Routine.run_bind, Prog.marksIn_bind] at h
  have hrest := bufferMessageReceivedRaiseComplete_marks hppid h
  generalize completeMessage t.bufferDcepInbound t.infoDcepInbound chunk info = complete
    at hrest htype ⊢
  obtain ⟨message, info'⟩ := complete
  simp only [Routine.run_bind, Prog.marksIn_bind] at hrest htype
  rcases htype with hack | ⟨hopen, hpeers⟩
  · simp only [if_pos hack, Routine.run_bind, Prog.marksIn_bind] at hrest
    obtain ⟨hslot, -⟩ : _ ∧ _ := hrest
    exact hslot
  · have hack : ¬ message.readU8.1 = dcepMessageTypeAck := by
      rw [hopen]
      decide
    simp only [if_neg hack, if_pos hopen, Routine.run_bind, Prog.marksIn_bind] at hrest
    -- the slots are those of the transport before the message
    let t₁ : Transport := ((t.keepDcep (some message) info').log
      (.dcepMessage info'.rcvSid message.rest)).setDcepBuffer (some message.readU8.2)
    have hslot : info'.rcvSid < t₁.nChannels := handleDataChannelOpenMessage_marks hrest hpeers
    exact hslot

theorem dataReceiveHandler_marks {chunk : Mbuf} {eor : Bool} {Q : Unit → Transport → Prop}
    (h : ((dataReceiveHandler chunk info eor).run t).MarksIn (surroundings role) Use.InBounds Q) :
    ∀ sid, t.UsesSlot (withRole role) chunk info eor sid → sid < t.nChannels := by
  unfold dataReceiveHandler at h
  split at h
  · next hppid => exact handleDcepMessage_marks hppid h
  · next hppid =>
    simp only [Transport.UsesSlot, if_neg hppid]
    rintro sid rfl
    exact h.1

end Noting

/-- Where the condition does not hold, something is out of bounds, or may be. -/
theorem Transport.UsesInBounds.copes {t : Transport} {role : Except Failure DtlsRole}
    {inbound : Inbound} (h : t.UsesInBounds role inbound) : t.Copes role inbound := by
  cases inbound with
  | message bytes rcvSid rcvPpid eor =>
    intro hattached hconnected
    have hrunning : ¬ t.flags.detached = true := by simp [hattached]
    have hopen : ¬ t.state ≠ .connected := not_not.mpr hconnected
    have hread := h
    simp only [UsesInBounds, Inbound.received, Noting.readEventHandler, Routine.run_bind,
      Routine.run_get, Prog.bind, Routine.run_ite, if_neg hrunning] at hread
    -- in particular if the memory for the event is there and nothing happens meanwhile
    have hreceived := hread true t ⟨rfl, trivial⟩
    simp only [Prog.lift, Prog.bind, if_true, if_neg hopen, Prog.marksIn_bind] at hreceived
    exact Noting.dataReceiveHandler_marks hreceived
  | notification snLength end_ body =>
    cases body with
    | streamReset denied failed incomingSsn outgoingSsn strresetStreamList =>
      rintro hattached rfl
      have hrunning : ¬ t.flags.detached = true := by simp [hattached]
      have hread := h
      simp only [UsesInBounds, Inbound.received, Noting.readEventHandler, Routine.run_bind,
        Routine.run_get, Prog.bind, Routine.run_ite, if_neg hrunning] at hread
      have hreceived := hread true t ⟨rfl, trivial⟩
      simp only [Prog.lift, Prog.bind, if_true, Noting.handleNotification, ne_eq, not_true,
        if_false, NotificationBody.toNotification] at hreceived
      obtain ⟨⟨hheader, -⟩, -⟩ : _ ∧ _ := hreceived
      exact hheader
    | assocChange | partialDelivery | sendFailed | senderDry | shutdown | streamChange | other =>
      trivial

/-- **Everything is in bounds if and only if the transport can cope with what comes in**, in every
    state in which the event loop may be running. -/
theorem usesInBounds_iff (dataChannelHandler stateChangeHandler destroyedHandler traceHandle : Bool)
    (usrsctpChunkSize : Nat) {t : Transport}
    {stack : List (Frame Call Op Op.Reply Transport Result)}
    (hreach : Reachable openHost (.create dataChannelHandler stateChangeHandler destroyedHandler
      traceHandle usrsctpChunkSize) ⟨t, stack⟩)
    (hturn : ApplicationsTurn (pending stack)) (role : Except Failure DtlsRole)
    (inbound : Inbound) : t.UsesInBounds role inbound ↔ t.Copes role inbound := by
  have hknown : SidsKnown (.create dataChannelHandler stateChangeHandler destroyedHandler
      traceHandle usrsctpChunkSize) := by
    constructor
    · intro i c hslot
      cases hslot
    · exact fun _ _ => rfl
  have ht : SidsKnown t := (reachable_tracked hknown hreach hturn).known
  exact ⟨Transport.UsesInBounds.copes, fun h => h.usesInBounds ht⟩

omit [MessageBuffer] in
/-- A message on the last stream that has a slot, and one on the stream behind it. On that stream, a
    server may also receive the start of an OPEN message: it does not let the other side choose the
    stream id. -/
theorem usesInBounds_iff_last :
    @Transport.UsesInBounds listMessageBuffer (.createConnected true false false 0) (.ok .server)
        (.message [104, 105] 65534 51 true) ∧
      ¬ @Transport.UsesInBounds listMessageBuffer (.createConnected true false false 0)
        (.ok .server) (.message [104, 105] 65535 51 true) ∧
      @Transport.UsesInBounds listMessageBuffer (.createConnected true false false 0) (.ok .server)
        (.message [3] 65535 50 true) := by
  have hreach : Reachable (@openHost listMessageBuffer) (.create true false false false 0)
      ⟨.createConnected true false false 0, []⟩ :=
    @reachable_connected listMessageBuffer (fun fs _ _ => ApplicationsTurn fs)
      (fun _ _ _ hf => by cases hf) true false false 0 0
  have hturn : ApplicationsTurn (pending ([] : List (Frame Call Op Op.Reply Transport Result))) :=
    fun _ hf => by cases hf
  have hiff := @usesInBounds_iff listMessageBuffer true false false false 0 _ _ hreach hturn
    (.ok .server)
  refine ⟨?_, ?_, ?_⟩
  · apply (hiff _).mpr
    rintro - - sid ⟨⟩
    decide
  · intro h
    exact absurd ((hiff _).mp h rfl rfl 65535 rfl) (by decide)
  · apply (hiff _).mpr
    rintro - - sid ⟨-, rfl, hack | ⟨-, role, hrole, hpeer⟩⟩
    · exact absurd hack (by decide)
    · obtain rfl : role = .server := Except.ok.inj hrole
      exact absurd hpeer (by decide)

omit [MessageBuffer] in
/-- There is a stream id more than there are slots. -/
theorem not_usesInBounds :
    Reachable (@openHost listMessageBuffer) (.create true false false false 0)
        ⟨.createConnected true false false 0, []⟩ ∧
      ¬ @Transport.UsesInBounds listMessageBuffer (.createConnected true false false 0)
        (.ok .server) (.message [104, 105] 65535 51 true) := by
  constructor
  · exact @reachable_connected listMessageBuffer (fun fs _ _ => ApplicationsTurn fs)
      (fun _ _ _ hf => by cases hf) true false false 0 0
  · intro h
    exact absurd (@Transport.UsesInBounds.copes listMessageBuffer _ _ _ h rfl rfl 65535 rfl)
      (by decide)

end InBounds

end RawrtcDataChannel
