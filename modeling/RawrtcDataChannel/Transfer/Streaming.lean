import RawrtcDataChannel.Transfer.PendingMark

/-!
# Streamed and buffered delivery

A channel in streaming mode passes each piece of a message to the application as it comes. A
channel that is not in this mode passes the message when it is complete. In the first case
`handle_application_message` looks at `MSG_EOR`; in the second it leaves the decision to
`buffer_message_received_raise_complete`, which never takes a piece with one of the deprecated
identifiers for partial messages for the end of a message.

So both modes deliver the same messages, unless such a piece comes with `MSG_EOR`.
-/

namespace RawrtcDataChannel

open Reentrant Reassembly

/-! ## Section 1: What the application sees -/

/-- The payload protocol identifier is one of a user message. -/
def IsUserPpid (ppid : Nat) : Prop :=
  IsEmptyPpid ppid ∨ ppid = ppidUtf16 ∨ ppid = ppidBinary ∨ ppid = ppidUtf16Partial ∨
    ppid = ppidBinaryPartial

instance (ppid : Nat) : Decidable (IsUserPpid ppid) :=
  inferInstanceAs (Decidable (_ ∨ _))

/-- The payload protocol identifier is one of the deprecated ones for partial messages. -/
def IsPartialPpid (ppid : Nat) : Prop :=
  ppid = ppidUtf16Partial ∨ ppid = ppidBinaryPartial

instance (ppid : Nat) : Decidable (IsPartialPpid ppid) :=
  inferInstanceAs (Decidable (_ ∨ _))

/-- Empty messages only occur between messages. A message goes from one `MSG_EOR` to the next. -/
def EmptyBetween (inside : Bool) : List UserPiece → Prop
  | [] => True
  | p :: pieces =>
    if IsEmptyPpid p.ppid then inside = false ∧ EmptyBetween inside pieces
    else EmptyBetween (!p.eor) pieces

/-- A buffer that the message handler is called with, and whether it is reported as complete. -/
abbrev Report :=
  Bytes × Bool

/-- What the message handler of a channel has been called with. -/
def reportsOn (c : ChannelId) (history : List Event) : List Report :=
  (handledOn c history).map fun x => (x.1.getD [], x.2.isComplete)

/-- Two deliveries of the same pieces agree: they report completeness at the same pieces, and the
    buffers that are streamed up to and including each complete one are together the one that is
    delivered otherwise. -/
structure Agrees (streamed buffered : List (UserPiece × List Report)) : Prop where
  complete : streamed.map (fun x => x.2.any Prod.snd) = buffered.map fun x => x.2.any Prod.snd
  messages : assembled [] (streamed.flatMap Prod.snd) =
    (buffered.flatMap Prod.snd).map Prod.fst

/-- The channel with the streaming mode on or off. -/
def Transport.withStreaming (s : Transport) (c : ChannelId) (on : Bool) : Transport :=
  s.modifyChannel c fun ch => { ch with flags := { ch.flags with streamed := on } }

/-- Pieces arrive on a stream. Each is listed with what it makes the channel report. -/
inductive Delivers [MessageBuffer] (c : ChannelId) (sid : Nat) :
    Transport → List (UserPiece × List Report) → Transport → Prop
  | nil (s : Transport) : Delivers c sid s [] s
  | cons {s s' s'' : Transport} {p : UserPiece} {r : Result} {reports : List Report}
      {rest : List (UserPiece × List Report)} :
      Turn (inboundHost sid) s (.piece p) r s' →
      reportsOn c s'.history = reportsOn c s.history ++ reports →
      Delivers c sid s' rest s'' → Delivers c sid s ((p, reports) :: rest) s''

/-! ## Section 2: What a channel reports -/

theorem IsUserPpid.ne_dcep {ppid : Nat} (h : IsUserPpid ppid) : ppid ≠ ppidDcep := by
  rintro rfl
  revert h
  unfold IsUserPpid IsEmptyPpid
  decide

/-- The identifiers of user messages are known. -/
theorem IsUserPpid.messageFlags {ppid : Nat} (h : IsUserPpid ppid) (isComplete : Bool) :
    ∃ messageFlags, messageFlagsOfPpid ppid isComplete = some messageFlags ∧
      messageFlags.isComplete = isComplete := by
  unfold messageFlagsOfPpid
  split
  · exact ⟨_, rfl, rfl⟩
  · next hstring =>
    rw [if_pos]
    · exact ⟨_, rfl, rfl⟩
    · unfold IsUserPpid IsEmptyPpid at h
      tauto

/-- Which pieces complete their message. -/
theorem completes_eq (sid ppid : Nat) (eor : Bool) :
    completes ⟨sid, ppid⟩ eor = (eor && !decide (IsPartialPpid ppid)) := by
  have hends : (ppid != ppidUtf16Partial && ppid != ppidBinaryPartial) =
      !decide (IsPartialPpid ppid) := by
    rw [Bool.eq_iff_iff, Bool.not_eq_true', decide_eq_false_iff_not, IsPartialPpid, not_or]
    simp
  rw [completes, Bool.and_assoc, hends]

/-- What a channel reports of what is passed to its message handler. -/
def reportsOf (messageHandler : Bool) (passed : Option (Bytes × Nat × Bool)) : List Report :=
  if messageHandler then passed.toList.map fun x => (x.1, x.2.2) else []

theorem reportsOn_messageCalls (s : Transport) {channel : DataChannel} (c : ChannelId)
    {passed : Option (Bytes × Nat × Bool)} (hknown : ∀ x ∈ passed, IsUserPpid x.2.1) :
    reportsOn c (s.logAll (channel.messageCalls c passed)).history =
      reportsOn c s.history ++ reportsOf channel.handlers.messageHandler passed := by
  cases passed with
  | none => simp [DataChannel.messageCalls, reportsOf]
  | some x =>
    obtain ⟨bytes, ppid, isComplete⟩ := x
    obtain ⟨messageFlags, hflags, rfl⟩ := (hknown _ rfl).messageFlags isComplete
    simp only [DataChannel.messageCalls, hflags, reportsOf]
    cases channel.handlers.messageHandler with
    | false => simp
    | true =>
      simp [reportsOn, handledOn, Transport.logAll, handledMessages]

/-- What the pieces make a channel report. -/
def deliveries (streamed messageHandler : Bool) (sid : Nat) :
    Context → List UserPiece → List (UserPiece × List Report)
  | _, [] => []
  | context, p :: pieces =>
    (p, reportsOf messageHandler (context.passes streamed sid p)) ::
      deliveries streamed messageHandler sid (context.receive streamed sid p) pieces

/-! ## Section 3: Runs -/

/-- What is half received is a user message. -/
def Context.Known (context : Context) : Prop :=
  context.bufferInbound ≠ none → IsUserPpid context.infoInbound.rcvPpid

/-- A channel that receives the user messages of a stream. -/
structure Receives (s : Transport) (c : ChannelId) (sid : Nat) (streamed messageHandler : Bool)
    (context : Context) : Prop where
  connected : s.state = .connected
  attached : s.flags.detached = false
  slot : s.channels sid = some c
  streamed : (s.dataChannels c).flags.streamed = streamed
  messageHandler : (s.dataChannels c).handlers.messageHandler = messageHandler
  transportArg : (s.dataChannels c).transportArg = some context
  atEnd : context.AtEnd
  known : context.Known

section Runs

variable {s s' : Transport} {c : ChannelId} {sid : Nat} {streamed messageHandler : Bool}
  {context : Context}

/-- The identifier of a message is the one of its first piece. -/
theorem Context.extended_known (hknown : context.Known) {p : UserPiece} (hp : IsUserPpid p.ppid) :
    IsUserPpid (context.extended sid p).1.rcvPpid := by
  unfold Context.extended Context.unfinished
  cases hbuffer : context.bufferInbound with
  | none => exact hp
  | some buffer => exact hknown (by simp [hbuffer])

theorem Context.passes_known (hknown : context.Known) {p : UserPiece} (hp : IsUserPpid p.ppid) :
    ∀ x ∈ context.passes streamed sid p, IsUserPpid x.2.1 := by
  intro x hx
  unfold Context.passes at hx
  split at hx
  · split at hx <;> cases hx
    exact hp
  · split at hx
    · cases hx
      exact hp
    · split at hx <;> cases hx
      exact Context.extended_known hknown hp

theorem Context.receive_known (hknown : context.Known) {p : UserPiece} (hp : IsUserPpid p.ppid) :
    (context.receive streamed sid p).Known := by
  intro hbuffer
  unfold Context.receive at hbuffer ⊢
  split at hbuffer
  · split at hbuffer <;> exact absurd rfl hbuffer
  · next hempty =>
    rw [if_neg hempty]
    split at hbuffer
    · exact absurd rfl hbuffer
    · next hstreamed =>
      rw [if_neg hstreamed]
      split at hbuffer
      · exact absurd rfl hbuffer
      · next hmore =>
        rw [if_neg hmore]
        exact Context.extended_known hknown hp

variable [MessageBuffer]

/-- One piece. -/
theorem Receives.turn (h : Receives s c sid streamed messageHandler context) {p : UserPiece}
    (hp : IsUserPpid p.ppid) {r : Result} (hturn : Turn (inboundHost sid) s (.piece p) r s') :
    Receives s' c sid streamed messageHandler (context.receive streamed sid p) ∧
      reportsOn c s'.history = reportsOn c s.history ++
        reportsOf messageHandler (context.passes streamed sid p) := by
  have hs' := Prog.always_iff.mp (readEvent_piece_receives mayFailWithMemory_ampleMemory
    h.attached h.connected h.slot h.transportArg h.atEnd hp.ne_dcep) r s' hturn.2
  rw [h.streamed] at hs'
  have hchannel : s'.dataChannels c =
      { s.dataChannels c with transportArg := some (context.receive streamed sid p) } := by
    rw [hs']
    show (s.modifyContext c _).dataChannels c = _
    rw [s.dataChannels_modifyContext, h.transportArg, Option.map_some]
  refine ⟨⟨?_, ?_, ?_, ?_, ?_, ?_, ?_, ?_⟩, ?_⟩
  · rw [hs']
    exact h.connected
  · rw [hs']
    exact h.attached
  · rw [hs']
    exact h.slot
  · rw [hchannel]
    exact h.streamed
  · rw [hchannel]
    exact h.messageHandler
  · rw [hchannel]
  · exact context.receive_atEnd streamed sid p
  · exact Context.receive_known h.known hp
  · rw [hs', reportsOn_messageCalls _ c (Context.passes_known h.known hp), h.messageHandler]
    rfl

/-- A run delivers what the pieces determine. -/
theorem Receives.delivers (h : Receives s c sid streamed messageHandler context)
    {done : List (UserPiece × List Report)} (hrun : Delivers c sid s done s')
    (hkinds : ∀ p ∈ done.map Prod.fst, IsUserPpid p.ppid) :
    done = deliveries streamed messageHandler sid context (done.map Prod.fst) := by
  induction hrun generalizing context with
  | nil => rfl
  | @cons _ _ _ p _ reports rest hturn hreports _ ih =>
    simp only [List.map_cons, List.forall_mem_cons] at hkinds
    obtain ⟨hnext, hreports'⟩ := h.turn hkinds.1 hturn
    have hsame := List.append_cancel_left (hreports.symm.trans hreports')
    rw [List.map_cons, deliveries, ← ih hnext hkinds.2, ← hsame]

/-- All pieces can be received. -/
theorem Receives.exists_delivers (h : Receives s c sid streamed messageHandler context)
    {pieces : List UserPiece} (hkinds : ∀ p ∈ pieces, IsUserPpid p.ppid) :
    ∃ done s', Delivers c sid s done s' ∧ done.map Prod.fst = pieces := by
  induction pieces generalizing s context with
  | nil => exact ⟨[], s, .nil s, rfl⟩
  | cons p pieces ih =>
    rw [List.forall_mem_cons] at hkinds
    have hturn : Turn (inboundHost sid) s (.piece p) _ _ :=
      ⟨trivial, Prog.outcome_exec obligingOracle obligingOracle_mayFail _⟩
    obtain ⟨hnext, hreports⟩ := h.turn hkinds.1 hturn
    obtain ⟨done, s', hrun, rfl⟩ := ih hnext hkinds.2
    exact ⟨_, s', .cons hturn hreports hrun, rfl⟩

end Runs

/-! ## Section 4: The two modes -/

section Modes

variable {context : Context} {sid : Nat} {pieces : List UserPiece}

/-- Whether a channel reports that a piece completes a message depends only on the piece. -/
theorem reportsOf_complete (messageHandler streamed : Bool) (context : Context) (sid : Nat)
    (p : UserPiece) : (reportsOf messageHandler (context.passes streamed sid p)).any Prod.snd =
      (messageHandler && (p.eor && (streamed || !decide (IsPartialPpid p.ppid)))) := by
  have hkind : ¬ (IsEmptyPpid p.ppid ∧ IsPartialPpid p.ppid) := by
    unfold IsEmptyPpid IsPartialPpid
    rintro ⟨h | h, h' | h'⟩ <;> rw [h] at h' <;> revert h' <;> decide
  cases messageHandler with
  | false => simp [reportsOf]
  | true =>
    unfold reportsOf Context.passes
    by_cases hempty : IsEmptyPpid p.ppid
    · have hfragment : ¬ IsPartialPpid p.ppid := fun h => hkind ⟨hempty, h⟩
      cases p.eor <;> simp [hempty, hfragment]
    · cases streamed with
      | true => simp [hempty]
      | false =>
        simp only [if_neg hempty, if_true, Bool.false_eq_true, if_false, completes_eq,
          Bool.true_and, Bool.false_or]
        cases p.eor && !decide (IsPartialPpid p.ppid) <;> simp

/-- The modes report the same pieces as complete if none of them is the end of a message in one
    mode only. -/
theorem deliveries_complete_iff (messageHandler : Bool) (context context' : Context) (sid : Nat)
    (pieces : List UserPiece) :
    (deliveries true messageHandler sid context pieces).map (fun x => x.2.any Prod.snd) =
        (deliveries false messageHandler sid context' pieces).map (fun x => x.2.any Prod.snd) ↔
      (messageHandler = true → ∀ p ∈ pieces, ¬ (IsPartialPpid p.ppid ∧ p.eor = true)) := by
  induction pieces generalizing context context' with
  | nil => simp [deliveries]
  | cons p pieces ih =>
    simp only [deliveries, List.map_cons, List.cons.injEq, reportsOf_complete, ih,
      List.forall_mem_cons]
    cases messageHandler <;> cases p.eor <;> simp

/-- What is assembled from the pieces is what the buffer collects, if they end their messages in
    both modes. -/
theorem assembled_deliveries {pending : List Bytes} (hholds : context.Holds pending)
    (streaming : Context) (hbetween : EmptyBetween (pending ≠ []) pieces)
    (hends : ∀ p ∈ pieces, ¬ (IsPartialPpid p.ppid ∧ p.eor = true)) :
    assembled pending.flatten ((deliveries true true sid streaming pieces).flatMap Prod.snd) =
      ((deliveries false true sid context pieces).flatMap Prod.snd).map Prod.fst := by
  induction pieces generalizing pending context streaming with
  | nil => rfl
  | cons p pieces ih =>
    rw [List.forall_mem_cons] at hends
    simp only [deliveries, List.flatMap_cons, List.map_append]
    unfold EmptyBetween at hbetween
    by_cases hempty : IsEmptyPpid p.ppid
    · -- nothing is half received, and this does not change
      rw [if_pos hempty] at hbetween
      obtain rfl : pending = [] := by simpa using hbetween.1
      have hnext : (context.receive false sid p).Holds [] := by
        unfold Context.receive
        rw [if_pos hempty]
        split
        · exact ⟨rfl, rfl⟩
        · exact ⟨hholds.1, rfl⟩
      rw [← ih hnext (streaming.receive true sid p) hbetween.2 hends.2]
      unfold Context.passes
      cases p.eor <;> simp [hempty, reportsOf, assembled]
    · rw [if_neg hempty] at hbetween
      -- by the condition on the ends of messages, the flag alone decides
      have hcompletes : completes ⟨sid, p.ppid⟩ p.eor = p.eor := by
        rw [completes_eq]
        cases heor : p.eor with
        -- the piece is pending in one mode and reported in the other
        | false => rfl
        -- one mode delivers the message, the other one its last piece
        | true =>
          have hfragment : ¬ IsPartialPpid p.ppid := fun h => hends.1 ⟨h, heor⟩
          simp [hfragment]
      have hextended := hholds.extended sid p
      unfold Context.passes
      cases heor : p.eor with
      | false =>
        have hnext : (context.receive false sid p).Holds (pending ++ [p.bytes]) := by
          have hmore : pending ++ [p.bytes] ≠ [] := by simp
          unfold Context.Holds
          rw [if_neg hmore, Context.receive, if_neg hempty, hcompletes, heor, hextended]
          exact ⟨rfl, rfl⟩
        have hrest := ih hnext (streaming.receive true sid p) (by simpa [heor] using hbetween)
          hends.2
        rw [heor] at hcompletes
        rw [← hrest]
        simp [hempty, hcompletes, reportsOf, assembled]
      | true =>
        have hnext : (context.receive false sid p).Holds [] := by
          rw [Context.receive, if_neg hempty, hcompletes, heor]
          exact ⟨rfl, rfl⟩
        have hrest := ih hnext (streaming.receive true sid p) (by simpa [heor] using hbetween)
          hends.2
        rw [heor] at hcompletes
        rw [← hrest]
        simp [hempty, hcompletes, reportsOf, assembled, hextended]

/-- Without a message handler, nothing is reported. -/
theorem deliveries_silent (streamed : Bool) (sid : Nat) (context : Context)
    (pieces : List UserPiece) :
    (deliveries streamed false sid context pieces).flatMap Prod.snd = [] := by
  induction pieces generalizing context with
  | nil => rfl
  | cons p pieces ih =>
    rw [deliveries, List.flatMap_cons, ih]
    rfl

/-- When what the two modes deliver of the same pieces agrees. -/
theorem deliveries_agree_iff (hholds : context.Holds []) (hbetween : EmptyBetween false pieces)
    (messageHandler : Bool) :
    Agrees (deliveries true messageHandler sid context pieces)
        (deliveries false messageHandler sid context pieces) ↔
      (messageHandler = true → ∀ p ∈ pieces, ¬ (IsPartialPpid p.ppid ∧ p.eor = true)) := by
  rw [← deliveries_complete_iff messageHandler context context sid pieces]
  constructor
  · exact Agrees.complete
  · intro hcomplete
    refine ⟨hcomplete, ?_⟩
    cases messageHandler with
    | false =>
      rw [deliveries_silent, deliveries_silent]
      rfl
    | true =>
      have hends := (deliveries_complete_iff true context context sid pieces).mp hcomplete rfl
      exact assembled_deliveries hholds context (by simpa using hbetween) hends

end Modes

/-- A channel of a connected transport that is between two messages. -/
structure Idle (s : Transport) (c : ChannelId) (sid : Nat) : Prop where
  connected : s.state = .connected
  attached : s.flags.detached = false
  slot : s.channels sid = some c
  context : ∃ context, (s.dataChannels c).transportArg = some context ∧ context.Holds []

/-- In both modes, a channel between two messages is ready for the next one. -/
theorem Idle.receives {s : Transport} {c : ChannelId} {sid : Nat} (h : Idle s c sid) :
    ∃ context : Context, context.Holds [] ∧ ∀ on, Receives (s.withStreaming c on) c sid on
      (s.dataChannels c).handlers.messageHandler context := by
  obtain ⟨context, hcontext, hholds⟩ := h.context
  refine ⟨context, hholds, ?_⟩
  intro on
  have hchannel : (s.withStreaming c on).dataChannels c =
      { s.dataChannels c with flags := { (s.dataChannels c).flags with streamed := on } } :=
    Function.update_self _ _ _
  have hnone : context.bufferInbound = none := hholds.2
  refine ⟨h.connected, h.attached, h.slot, ?_, ?_, ?_, ?_, ?_⟩
  · rw [hchannel]
  · rw [hchannel]
  · rw [hchannel]
    exact hcontext
  · intro buffer hbuffer
    rw [hnone] at hbuffer
    cases hbuffer
  · exact fun hsome => absurd hnone hsome

/-- **When streamed delivery agrees with buffered delivery**: for all sequences of pieces in which
    no piece with a deprecated identifier for partial messages comes with `MSG_EOR`. -/
theorem streamed_agrees_with_buffered [MessageBuffer] {s : Transport} {c : ChannelId} {sid : Nat}
    (h : Idle s c sid) {pieces : List UserPiece} (hkinds : ∀ p ∈ pieces, IsUserPpid p.ppid)
    (hbetween : EmptyBetween false pieces) :
    (∀ streamed buffered s₁ s₂, Delivers c sid (s.withStreaming c true) streamed s₁ →
        Delivers c sid (s.withStreaming c false) buffered s₂ → streamed.map Prod.fst = pieces →
        buffered.map Prod.fst = pieces → Agrees streamed buffered) ↔
      ((s.dataChannels c).handlers.messageHandler = true →
        ∀ p ∈ pieces, ¬ (IsPartialPpid p.ppid ∧ p.eor = true)) := by
  obtain ⟨context, hholds, hreceives⟩ := h.receives
  have hdelivered : ∀ on done s', Delivers c sid (s.withStreaming c on) done s' →
      done.map Prod.fst = pieces → done = deliveries on
        (s.dataChannels c).handlers.messageHandler sid context pieces := by
    rintro on done s' hrun rfl
    exact (hreceives on).delivers hrun hkinds
  rw [← deliveries_agree_iff hholds hbetween]
  constructor
  · intro hagree
    obtain ⟨streamed, s₁, hrun₁, hpieces₁⟩ := (hreceives true).exists_delivers hkinds
    obtain ⟨buffered, s₂, hrun₂, hpieces₂⟩ := (hreceives false).exists_delivers hkinds
    have hboth := hagree _ _ _ _ hrun₁ hrun₂ hpieces₁ hpieces₂
    rw [hdelivered true _ _ hrun₁ hpieces₁, hdelivered false _ _ hrun₂ hpieces₂] at hboth
    exact hboth
  · intro hagree streamed buffered s₁ s₂ hrun₁ hrun₂ hpieces₁ hpieces₂
    rw [hdelivered true _ _ hrun₁ hpieces₁, hdelivered false _ _ hrun₂ hpieces₂]
    exact hagree

/-! ## Section 5: Two sequences of pieces -/

theorem withChannel_idle : Idle .withChannel 0 0 :=
  ⟨rfl, rfl, rfl, {}, rfl, rfl, rfl⟩

/-- A message in two pieces and an empty one. -/
abbrev ordinaryPieces : List UserPiece :=
  [⟨[1], ppidBinary, false⟩, ⟨[2], ppidBinary, true⟩, ⟨[0], ppidUtf16Empty, true⟩]

/-- The two modes deliver an ordinary sequence of pieces alike. -/
theorem streamed_agrees_with_buffered_ordinary : ∃ streamed buffered s₁ s₂,
    @Delivers listMessageBuffer 0 0 (Transport.withChannel.withStreaming 0 true) streamed s₁ ∧
    @Delivers listMessageBuffer 0 0 (Transport.withChannel.withStreaming 0 false) buffered s₂ ∧
    streamed.map Prod.fst = ordinaryPieces ∧ buffered.map Prod.fst = ordinaryPieces ∧
    Agrees streamed buffered := by
  obtain ⟨context, hholds, hreceives⟩ := withChannel_idle.receives
  have hkinds : ∀ p ∈ ordinaryPieces, IsUserPpid p.ppid := by decide
  obtain ⟨streamed, s₁, hrun₁, hpieces₁⟩ :=
    @Receives.exists_delivers _ _ _ _ _ _ listMessageBuffer (hreceives true) _ hkinds
  obtain ⟨buffered, s₂, hrun₂, hpieces₂⟩ :=
    @Receives.exists_delivers _ _ _ _ _ _ listMessageBuffer (hreceives false) _ hkinds
  have hagree := (@streamed_agrees_with_buffered listMessageBuffer .withChannel 0 0 withChannel_idle
    ordinaryPieces hkinds (by simp [EmptyBetween])).mpr fun _ => by decide
  exact ⟨streamed, buffered, s₁, s₂, hrun₁, hrun₂, hpieces₁, hpieces₂,
    hagree streamed buffered s₁ s₂ hrun₁ hrun₂ hpieces₁ hpieces₂⟩

/-- A piece with a deprecated identifier that ends a message. -/
abbrev deprecatedPiece : UserPiece :=
  ⟨[1], ppidBinaryPartial, true⟩

/-- **A piece with a deprecated identifier and `MSG_EOR`** is reported as complete in streaming
    mode, but not otherwise. -/
theorem not_streamed_agrees_with_buffered : ∃ streamed buffered s₁ s₂,
    @Delivers listMessageBuffer 0 0 (Transport.withChannel.withStreaming 0 true) streamed s₁ ∧
    @Delivers listMessageBuffer 0 0 (Transport.withChannel.withStreaming 0 false) buffered s₂ ∧
    streamed = [(deprecatedPiece, [([1], true)])] ∧ buffered = [(deprecatedPiece, [])] ∧
    ¬ Agrees streamed buffered := by
  obtain ⟨context, hholds, hreceives⟩ := withChannel_idle.receives
  have hkinds : ∀ p ∈ [deprecatedPiece], IsUserPpid p.ppid := by decide
  obtain ⟨streamed, s₁, hrun₁, hpieces₁⟩ :=
    @Receives.exists_delivers _ _ _ _ _ _ listMessageBuffer (hreceives true) _ hkinds
  obtain ⟨buffered, s₂, hrun₂, hpieces₂⟩ :=
    @Receives.exists_delivers _ _ _ _ _ _ listMessageBuffer (hreceives false) _ hkinds
  have hstreamed : streamed = [(deprecatedPiece, [([1], true)])] := by
    have h := @Receives.delivers _ _ _ _ _ _ _ listMessageBuffer (hreceives true) _ hrun₁
      (by rwa [hpieces₁])
    rw [hpieces₁] at h
    exact h
  have hbuffered : buffered = [(deprecatedPiece, [])] := by
    have h := @Receives.delivers _ _ _ _ _ _ _ listMessageBuffer (hreceives false) _ hrun₂
      (by rwa [hpieces₂])
    rw [hpieces₂] at h
    exact h
  refine ⟨streamed, buffered, s₁, s₂, hrun₁, hrun₂, hstreamed, hbuffered, ?_⟩
  intro hagree
  have hcomplete := hagree.complete
  rw [hstreamed, hbuffered] at hcomplete
  exact absurd hcomplete (by decide)

end RawrtcDataChannel
