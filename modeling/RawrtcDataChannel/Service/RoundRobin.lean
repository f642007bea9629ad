import Mathlib.Data.List.Nodup
import Mathlib.Data.Nat.ModEq
import RawrtcDataChannel.Closing.StreamResets
import RawrtcDataChannel.Reentrant.Interference
import RawrtcDataChannel.Transfer.SystemRoutines

/-!
# Serving channels in turn

When everything has been sent, the channels are told that their buffered amount is low. The
handlers are called one slot after the other until one of them fills the buffer again, and next
time it goes on with the slot behind.

Handlers may do anything to the transport but change the number of slots and the turn, forget what
has happened, or queue messages without clearing the flag for the buffered amount.
-/

namespace RawrtcDataChannel

open Reentrant

/-! ## Section 1: Going in circles -/

/-- `k` steps on a circle of `n` places, from `i` on. -/
def cyclic (n i k : Nat) : List Nat :=
  (List.range k).map fun m => (i + m) % n

section Cyclic

variable {n i k : Nat}

@[simp] theorem length_cyclic : (cyclic n i k).length = k := by
  simp [cyclic]

theorem cyclic_succ : cyclic n i (k + 1) = i % n :: cyclic n (i + 1) k := by
  simp only [cyclic, List.range_succ_eq_map, List.map_cons, List.map_map, Nat.add_zero]
  congr 2
  funext m
  simp only [Function.comp_apply, Nat.succ_eq_add_one, Nat.add_assoc, Nat.add_comm 1 m]

theorem cyclic_add (k l : Nat) : cyclic n i (k + l) = cyclic n i k ++ cyclic n (i + k) l := by
  simp only [cyclic, List.range_add, List.map_append, List.map_map]
  congr 2
  funext m
  simp only [Function.comp_apply, Nat.add_assoc]

/-- Only the place one starts from matters. -/
theorem cyclic_mod : cyclic n (i % n) k = cyclic n i k := by
  simp only [cyclic, Nat.mod_add_mod]

/-- No place is met twice in one round. -/
theorem nodup_cyclic (h : k ≤ n) : (cyclic n i k).Nodup := by
  refine List.Nodup.map_on ?_ List.nodup_range
  intro a ha b hb hab
  have ha : a < n := (List.mem_range.mp ha).trans_le h
  have hb : b < n := (List.mem_range.mp hb).trans_le h
  have hmod : Nat.ModEq n a b := Nat.ModEq.add_left_cancel' i hab
  exact hmod.eq_of_lt_of_lt ha hb

theorem lt_of_mem_cyclic (hn : 0 < n) {j : Nat} (h : j ∈ cyclic n i k) : j < n := by
  obtain ⟨m, -, rfl⟩ := List.mem_map.mp h
  exact Nat.mod_lt _ hn

/-- Every place is met in one round. -/
theorem mem_cyclic {j : Nat} (hj : j < n) : j ∈ cyclic n i n := by
  have hn : 0 < n := by omega
  refine List.mem_map.mpr ⟨(j + n - i % n) % n, List.mem_range.mpr (Nat.mod_lt _ hn), ?_⟩
  have hi := Nat.mod_lt i hn
  have hsum : i % n + (j + n - i % n) = j + n := by omega
  rw [Nat.add_mod_mod, ← Nat.mod_add_mod, hsum, Nat.add_mod_right, Nat.mod_eq_of_lt hj]

end Cyclic

/-! ## Section 2: Visits -/

/-- A slot that `handle_sender_dry_event` has come to. -/
structure Visit where
  slot : Nat
  before : Transport
  after : Transport

/-- Such an event has happened in between. -/
def Happens (p : Event → Prop) (s s' : Transport) : Prop :=
  ∃ e ∈ s'.history.drop s.history.length, p e

/-- The reset of the outgoing stream of channel `c` has been requested, or there was no memory for
    the request. -/
def Event.isRequestOf (c : ChannelId) : Event → Bool
  | .resetStreams c' _ _ | .resetNoMemory c' => c' = c
  | _ => false

/-- Channel `c` has been served: its reset is requested and no longer pending, or its handler for the
    buffered amount is called if there is one. -/
def Visit.Serves (visit : Visit) (c : ChannelId) : Prop :=
  if (visit.before.context c).flags.pendingStreamReset then
    Happens (·.isRequestOf c = true) visit.before visit.after ∧
      (visit.after.context c).flags.pendingStreamReset = false
  else
    (visit.before.dataChannels c).handlers.bufferedAmountLowHandler = true →
      Happens (· = .handler (.bufferedAmountLowHandler c)) visit.before visit.after

/-- The flag has been cleared when the slot was left. -/
def Visit.cleared (visit : Visit) : Bool :=
  !visit.after.flags.bufferedAmountLow

/-- The loop of `handle_sender_dry_event`, with the slots it comes to. -/
def senderDryLoopVisits (stop : Nat) : Nat → Nat → M (List Visit × Nat)
  | 0, i => return ([], i)
  | fuel + 1, i => do
    let before ← get
    serveSlot i
    let t ← get
    let next := (i + 1) % t.nChannels
    if t.flags.bufferedAmountLow = false then
      return ([⟨i, before, t⟩], next)
    else if next ≠ stop then
      let rest ← senderDryLoopVisits stop fuel next
      return (⟨i, before, t⟩ :: rest.1, rest.2)
    else
      return ([⟨i, before, t⟩], next)

/-- The slot an event starts with. -/
def Transport.turn (t : Transport) : Nat :=
  if t.nChannels ≤ t.currentChannelSid then 0 else t.currentChannelSid

/-- `handle_sender_dry_event`, with the slots it comes to. -/
def senderDryEventVisits : M (List Visit) := do
  let t ← get
  if t.bufferedMessagesOutgoing ≠ [] then
    return []
  else
    modify fun t => { t with flags := { t.flags with bufferedAmountLow := true } }
    let result ← senderDryLoopVisits t.turn t.nChannels t.turn
    modify ({ · with currentChannelSid := result.2 })
    return result.1

theorem run_senderDryLoop (stop fuel i : Nat) (s : Transport) : (senderDryLoop stop fuel i).run s =
    ((senderDryLoopVisits stop fuel i).run s).bind fun result s' => .ret result.2 s' := by
  induction fuel generalizing i s with
  | zero => rfl
  | succ fuel ih =>
    simp only [senderDryLoop, senderDryLoopVisits, Routine.run_bind, Routine.run_get, Prog.bind,
      Prog.bind_assoc]
    congr 1
    funext _ s'
    simp only [Routine.run_ite]
    split
    · rfl
    · split
      · rw [ih, Routine.run_bind, Prog.bind_assoc]
        rfl
      · rfl

/-- Taking down the visits changes nothing. -/
theorem run_handleSenderDryEvent (s : Transport) : handleSenderDryEvent.run s =
    (senderDryEventVisits.run s).bind fun _ s' => .ret () s' := by
  simp only [handleSenderDryEvent, senderDryEventVisits, Routine.run_bind, Routine.run_get,
    Prog.bind, Routine.run_ite]
  split
  · rfl
  · simp only [Routine.run_modify, Prog.bind, run_senderDryLoop, Prog.bind_assoc]
    rfl

/-! ## Section 3: What handlers leave alone -/

/-- Messages only wait once the flag for the buffered amount has been cleared. -/
def Transport.Flagged (s : Transport) : Prop :=
  s.bufferedMessagesOutgoing = [] ∨ s.flags.bufferedAmountLow = false

/-- The number of slots and the turn are the same, and so is everything that has happened so far. -/
structure SameTurn (s s' : Transport) : Prop where
  nChannels : s'.nChannels = s.nChannels
  currentChannelSid : s'.currentChannelSid = s.currentChannelSid
  history : s.history <+: s'.history
  flagged : s.Flagged → s'.Flagged

instance : IsPreorder Transport SameTurn where
  refl _ := ⟨rfl, rfl, List.prefix_rfl, id⟩
  trans _ _ _ h h' := ⟨h'.nChannels.trans h.nChannels,
    h'.currentChannelSid.trans h.currentChannelSid, h.history.trans h'.history,
    h'.flagged ∘ h.flagged⟩

theorem SameTurn.log (s : Transport) (e : Event) : SameTurn s (s.log e) :=
  ⟨rfl, rfl, List.prefix_append _ _, id⟩

theorem SameTurn.modifyChannel (s : Transport) (c : ChannelId) (f : DataChannel → DataChannel) :
    SameTurn s (s.modifyChannel c f) :=
  ⟨rfl, rfl, List.prefix_rfl, id⟩

theorem SameTurn.turn {s s' : Transport} (h : SameTurn s s') : s'.turn = s.turn := by
  simp only [Transport.turn, h.nChannels, h.currentChannelSid]

/-- Whatever the surroundings answer. -/
abbrev anyAnswer : (o : Op) → Transport → o.Reply → Prop := fun _ _ _ => True

section Respects

variable {answers : (o : Op) → Transport → o.Reply → Prop}

theorem callHandler_respects (h : Handler) : (callHandler h).Respects answers SameTurn := by
  apply (Routine.respects_modify fun s => SameTurn.log s _).bind
  intro _
  exact Routine.respects_perform _

theorem logEvent_respects (e : Event) : (logEvent e).Respects answers SameTurn :=
  Routine.respects_modify fun s => SameTurn.log s e

theorem dataChannelSetState_respects (c : ChannelId) (state : DataChannelState) :
    (dataChannelSetState c state).Respects answers SameTurn := by
  apply (Routine.respects_modify fun s => SameTurn.modifyChannel s c _).bind
  intro _
  apply (logEvent_respects _).bind
  intro _
  apply Routine.respects_get.bind
  intro t
  cases state with
  | opened | closed => exact Routine.Respects.ite (callHandler_respects _) (Routine.respects_pure _)
  | connecting | closing => exact Routine.respects_pure _

theorem clearSlot_respects (i : Nat) (c : ChannelId) :
    (clearSlot i c).Respects answers SameTurn := by
  apply (Routine.respects_modify fun _ => ⟨rfl, rfl, List.prefix_rfl, id⟩).bind
  intro _
  exact logEvent_respects _

theorem channelRegistered_respects (c : ChannelId) :
    (channelRegistered c).Respects answers SameTurn := by
  apply Routine.respects_get.bind
  intro t
  apply Routine.Respects.ite (Routine.respects_pure _)
  apply (logEvent_respects _).bind
  intro _
  exact Routine.respects_pure _

theorem requestStreamReset_respects (c : ChannelId) :
    (requestStreamReset c).Respects answers SameTurn := by
  have halloc : alloc.Respects answers SameTurn := Routine.respects_perform _
  apply halloc.bind
  intro ok
  apply Routine.Respects.ite _ ((logEvent_respects _).bind fun _ => Routine.respects_pure _)
  apply Routine.respects_get.bind
  intro t
  apply Routine.Respects.bind
  · apply (Routine.respects_perform _).bind
    intro error
    apply (logEvent_respects _).bind
    intro _
    exact Routine.respects_pure _
  · intro error
    cases error <;> exact Routine.respects_pure _

/-- The end of `reset_outgoing_stream` if there was an error. -/
theorem closeImproperly_respects (c : ChannelId) (error : Code) : (do
    dataChannelSetState c .closed
    if ← channelRegistered c then
      let t ← get
      clearSlot (t.context c).sid c
      return error
    else
      return .unknownError : M Code).Respects answers SameTurn := by
  apply (dataChannelSetState_respects _ _).bind
  intro _
  apply (channelRegistered_respects c).bind
  intro registered
  apply Routine.Respects.ite _ (Routine.respects_pure _)
  apply Routine.respects_get.bind
  intro t
  apply (clearSlot_respects _ _).bind
  intro _
  exact Routine.respects_pure _

theorem resetOutgoingStream_respects (c : ChannelId) :
    (resetOutgoingStream c).Respects answers SameTurn := by
  apply Routine.respects_get.bind
  intro t
  apply Routine.Respects.ite
  · apply (Routine.respects_modify fun s => SameTurn.modifyChannel s c _).bind
    intro _
    exact Routine.respects_pure _
  · apply (requestStreamReset_respects c).bind
    intro error
    exact Routine.Respects.ite (Routine.respects_pure _) (closeImproperly_respects c error)

theorem serveSlot_respects (i : Nat) : (serveSlot i).Respects answers SameTurn := by
  apply Routine.respects_get.bind
  intro t
  cases t.channels i with
  | none => exact Routine.respects_pure _
  | some c =>
    apply Routine.Respects.ite
    · apply (resetOutgoingStream_respects c).bind
      intro _
      exact Routine.respects_modify fun s => SameTurn.modifyChannel s c _
    · apply Routine.respects_get.bind
      intro t
      exact Routine.Respects.ite (callHandler_respects _) (Routine.respects_pure _)

/-- Sending clears the flag, so messages may have to wait. -/
theorem SameTurn.of_sendsOnly {s s' : Transport} (h : SendsOnly s s')
    (hlow : s'.flags.bufferedAmountLow = false) : SameTurn s s' := by
  obtain ⟨low, queue, es, rfl, -⟩ := h
  exact ⟨rfl, rfl, List.prefix_append _ _, fun _ => .inr hlow⟩

theorem sctpSend_sameTurn [MessageBuffer] (buffer : Mbuf) (info : SendInfo) (flags : Nat) :
    (sctpSend buffer info flags).Keeps answers SameTurn := by
  intro s
  exact Prog.Always.mono ((sctpSend_within buffer info flags s).always.and
    (sctpSend_clears buffer info flags s)) fun _ _ h => .of_sendsOnly h.1 h.2

theorem sendMessage_sameTurn [MessageBuffer] (channel : Option ChannelId) (context : Context)
    (buffer : Mbuf) (ppid : Nat) :
    (sendMessage channel context buffer ppid).Keeps answers SameTurn := by
  have hlog : ∀ e, (logEvent e).Keeps answers SameTurn :=
    fun e => Routine.keeps_modify fun s => SameTurn.log s e
  apply Routine.keeps_get.bind
  intro t
  apply Routine.Keeps.ite ((hlog _).bind fun _ => sctpSend_sameTurn _ _ _)
  cases channel with
  | none => exact Routine.keeps_pure _
  | some c => exact (hlog _).bind fun _ => sctpSend_sameTurn _ _ _

/-- A handler may send messages, which is what clears the flag. -/
theorem dataChannelSend_sameTurn [MessageBuffer] (c : ChannelId) (buffer : Option Mbuf)
    (isBinary : Bool) : (dataChannelSend c buffer isBinary).Keeps answers SameTurn := by
  have hhandler : (channelSendHandler c buffer isBinary).Keeps answers SameTurn := by
    apply Routine.keeps_get.bind
    intro t
    apply Routine.Keeps.ite
    · apply alloc_within.keeps.bind
      intro ok
      exact Routine.Keeps.ite (sendMessage_sameTurn _ _ _ _) (Routine.keeps_pure _)
    · exact Routine.Keeps.ite (Routine.keeps_pure _) (sendMessage_sameTurn _ _ _ _)
  apply Routine.keeps_get.bind
  intro t
  apply Routine.Keeps.ite (Routine.keeps_pure _)
  apply hhandler.bind
  intro error
  have hlog : (logEvent (.messageAccepted c)).Keeps answers SameTurn :=
    Routine.keeps_modify fun s => SameTurn.log s _
  exact Routine.Keeps.ite (hlog.bind fun _ => Routine.keeps_pure _) (Routine.keeps_pure _)

end Respects

/-! ## Section 4: One visit -/

/-- The visit is one of the code's. -/
def Visit.Sound (visit : Visit) : Prop :=
  ((serveSlot visit.slot).run visit.before).OutcomeUnder SameTurn anyAnswer () visit.after

/-- A registered channel that is visited is served. -/
def Visit.Attends (visit : Visit) : Prop :=
  ∀ c, visit.before.channels visit.slot = some c → visit.Serves c

section Happens

variable {p : Event → Prop} {s s' s'' : Transport}

theorem Happens.log {e : Event} (he : p e) (h : SameTurn s s') : Happens p s (s'.log e) := by
  obtain ⟨es, hes⟩ := h.history
  refine ⟨e, ?_, he⟩
  simp [Transport.log, ← hes]

/-- It is not forgotten. -/
theorem Happens.trans (h : Happens p s s') (h' : SameTurn s' s'') : Happens p s s'' := by
  obtain ⟨e, he, hp⟩ := h
  obtain ⟨es, hes⟩ := h'.history
  refine ⟨e, ?_, hp⟩
  rw [← hes, List.drop_append]
  exact List.mem_append_left _ he

end Happens

/-- The part of `reset_outgoing_stream` that issues the reset does so. -/
theorem requestStreamReset_requests (c : ChannelId) (s : Transport) :
    ((requestStreamReset c).run s).AlwaysUnder SameTurn anyAnswer fun _ s' =>
      Happens (·.isRequestOf c = true) s s' := by
  simp only [requestStreamReset, Routine.run_bind, run_alloc, Prog.bind]
  intro ok s₁ h₁ _
  cases ok with
  | false => exact .log (by simp [Event.isRequestOf]) h₁
  | true =>
    simp only [if_true, Routine.run_bind, Routine.run_get, Prog.bind, run_usrsctpResetStreams]
    intro error s₂ h₂ _
    have hrequests : ∀ sid, Happens (·.isRequestOf c = true) s
        (s₂.log (.resetStreams c sid error)) := fun sid =>
      .log (by simp [Event.isRequestOf]) (trans_of SameTurn h₁ h₂)
    cases error <;> exact hrequests _

/-- `reset_outgoing_stream` when no messages wait. -/
theorem resetOutgoingStream_requests (c : ChannelId) {s : Transport}
    (hempty : s.bufferedMessagesOutgoing = []) :
    ((resetOutgoingStream c).run s).AlwaysUnder SameTurn anyAnswer fun _ s' =>
      Happens (·.isRequestOf c = true) s s' := by
  unfold resetOutgoingStream
  rw [Routine.run_bind, Routine.run_get, Prog.bind, Routine.run_ite, if_neg (not_not.mpr hempty),
    Routine.run_bind, Prog.alwaysUnder_bind]
  apply (requestStreamReset_requests c s).mono
  intro error s₁ h₁
  rw [Routine.run_ite]
  split
  · exact h₁
  · exact (closeImproperly_respects c error s₁).mono fun _ _ h₂ => h₁.trans h₂

/-- A registered channel is served while no messages wait. -/
theorem serveSlot_attends (i : Nat) {s : Transport} (hempty : s.bufferedMessagesOutgoing = []) :
    ((serveSlot i).run s).AlwaysUnder SameTurn anyAnswer fun _ s' =>
      (Visit.mk i s s').Attends := by
  simp only [serveSlot, Routine.run_bind, Routine.run_get, Prog.bind]
  cases hslot : s.channels i with
  | none =>
    intro c hc
    have hnone : s.channels i = some c := hc
    rw [hslot] at hnone
    cases hnone
  | some c =>
    -- there is one channel in the slot, so it is enough to serve this one
    have hserves : ∀ s', (Visit.mk i s s').Serves c → (Visit.mk i s s').Attends := by
      intro s' h c' hc
      have hsome : s.channels i = some c' := hc
      rw [hslot] at hsome
      cases hsome
      exact h
    dsimp only
    rw [Routine.run_ite]
    split
    · next hpending =>
      rw [Routine.run_bind, Prog.alwaysUnder_bind]
      apply (resetOutgoingStream_requests c hempty).mono
      intro _ s₁ h₁
      have hsame : SameTurn s₁ (s₁.modifyContext c (Context.setPendingStreamReset false)) :=
        .modifyChannel s₁ c _
      apply hserves
      unfold Visit.Serves
      rw [if_pos hpending]
      refine ⟨h₁.trans hsame, ?_⟩
      -- the mark is cleared after the request, whatever has become of the channel
      cases harg : (s₁.dataChannels c).transportArg <;>
        simp [Transport.context, Transport.modifyContext, Transport.modifyChannel, harg,
          Context.setPendingStreamReset]
    · next hpending =>
      simp only [raiseBufferedAmountLowEvent, Routine.run_bind, Routine.run_get, Prog.bind,
        Routine.run_ite]
      split
      · rw [run_callHandler]
        intro _ s₁ h₁ _
        apply hserves
        unfold Visit.Serves
        rw [if_neg hpending]
        intro _
        -- the call is noted down before the handler runs
        have hcalled := Happens.log (p := (· = .handler (.bufferedAmountLowHandler c))) rfl
          (refl_of SameTurn s)
        exact hcalled.trans h₁
      · next hnone =>
        apply hserves
        unfold Visit.Serves
        rw [if_neg hpending]
        exact fun h => absurd h hnone

/-! ## Section 5: One event -/

/-- Slots have been visited in turn, from `i` on and at most `limit` of them. It has been stopped
    right after the first one that was left with the flag cleared, or else after `limit`. -/
structure InTurn (n i limit : Nat) (visits : List Visit) : Prop where
  slots : visits.map Visit.slot = cyclic n i visits.length
  ne_nil : visits ≠ []
  length_le : visits.length ≤ limit
  running : ∀ v ∈ visits.dropLast, v.cleared = false
  stopped : (∃ v ∈ visits.getLast?, v.cleared = true) ∨ visits.length = limit
  sound : ∀ v ∈ visits, v.Sound
  attends : ∀ v ∈ visits, v.Attends

section Loop

variable {n i limit : Nat} {visit : Visit} {visits : List Visit}

theorem inTurn_singleton (hslot : visit.slot = i % n) (hlimit : 1 ≤ limit)
    (hstop : visit.cleared = true ∨ 1 = limit) (hsound : visit.Sound) (hattends : visit.Attends) :
    InTurn n i limit [visit] where
  slots := by
    simp [cyclic, hslot]
  ne_nil := by simp
  length_le := hlimit
  running v hv := by simp at hv
  stopped := by
    rcases hstop with hcleared | hone
    · exact .inl ⟨visit, rfl, hcleared⟩
    · exact .inr hone
  sound v hv := by
    obtain rfl := List.mem_singleton.mp hv
    exact hsound
  attends v hv := by
    obtain rfl := List.mem_singleton.mp hv
    exact hattends

theorem InTurn.cons (h : InTurn n (i + 1) limit visits) (hslot : visit.slot = i % n)
    (hrunning : visit.cleared = false) (hsound : visit.Sound) (hattends : visit.Attends) :
    InTurn n i (limit + 1) (visit :: visits) where
  slots := by
    rw [List.map_cons, List.length_cons, cyclic_succ, hslot, h.slots]
  ne_nil := List.cons_ne_nil _ _
  length_le := Nat.succ_le_succ h.length_le
  running v hv := by
    rw [List.dropLast_cons_of_ne_nil h.ne_nil] at hv
    rcases List.mem_cons.mp hv with rfl | hv
    · exact hrunning
    · exact h.running v hv
  stopped := by
    rw [List.getLast?_cons_of_ne_nil h.ne_nil]
    exact h.stopped.imp id (congrArg (· + 1))
  sound v hv := by
    rcases List.mem_cons.mp hv with rfl | hv
    · exact hsound
    · exact h.sound v hv
  attends v hv := by
    rcases List.mem_cons.mp hv with rfl | hv
    · exact hattends
    · exact h.attends v hv

/-- The loop, `left` slots before it is back at `stop`. -/
theorem senderDryLoop_inTurn {stop left : Nat} {s : Transport} (hstop : stop < s.nChannels)
    (hempty : s.bufferedMessagesOutgoing = []) (hleft : 0 < left) {j : Nat}
    (hj : j + left = s.nChannels) :
    ((senderDryLoopVisits stop left ((stop + j) % s.nChannels)).run s).AlwaysUnder
      SameTurn anyAnswer fun result s' => SameTurn s s' ∧
        InTurn s.nChannels (stop + j) left result.1 ∧
        result.2 = (stop + j + result.1.length) % s.nChannels := by
  induction left generalizing j s with
  | zero => exact absurd hleft (lt_irrefl 0)
  | succ left ih =>
    simp only [senderDryLoopVisits, Routine.run_bind, Routine.run_get, Prog.bind,
      Prog.alwaysUnder_bind]
    apply ((serveSlot_respects _ s).and
      ((serveSlot_attends _ hempty).and (Prog.alwaysUnder_outcome _))).mono
    rintro ⟨⟩ s₁ ⟨hsame, hattends, hsound⟩
    set n := s.nChannels with hn
    have hn₁ : s₁.nChannels = n := hsame.nChannels
    have hnext : ((stop + j) % n + 1) % s₁.nChannels = (stop + j + 1) % n := by
      rw [hn₁, Nat.mod_add_mod]
    simp only [hnext, Routine.run_ite]
    -- the loop is back at its start exactly when no slot is left
    have hback : (stop + j + 1) % n = stop ↔ left = 0 := by
      constructor
      · intro heq
        by_contra hne
        rcases Nat.lt_or_ge (stop + j + 1) n with hlt | hge
        · rw [Nat.mod_eq_of_lt hlt] at heq
          omega
        · rw [Nat.mod_eq_sub_mod hge, Nat.mod_eq_of_lt (by omega)] at heq
          omega
      · rintro rfl
        have hround : stop + j + 1 = stop + n := by omega
        rw [hround, Nat.add_mod_right, Nat.mod_eq_of_lt hstop]
    by_cases hcleared : s₁.flags.bufferedAmountLow = false
    · rw [if_pos hcleared]
      exact ⟨hsame, inTurn_singleton rfl (by omega) (.inl (by simp [Visit.cleared, hcleared])) hsound
        hattends, rfl⟩
    · have hrunning : s₁.flags.bufferedAmountLow = true := by simpa using hcleared
      rw [if_neg hcleared]
      by_cases hzero : left = 0
      · rw [if_neg (not_not.mpr (hback.mpr hzero))]
        exact ⟨hsame, inTurn_singleton rfl (by omega) (.inr (by omega)) hsound hattends, rfl⟩
      · rw [if_pos fun h => hzero (hback.mp h), Routine.run_bind, Prog.alwaysUnder_bind]
        -- the flag has not been cleared, so no messages wait
        have hempty₁ : s₁.bufferedMessagesOutgoing = [] :=
          (hsame.flagged (.inl hempty)).resolve_right hcleared
        have hrest := ih (s := s₁) (j := j + 1) (hn₁ ▸ hstop) hempty₁ (Nat.pos_of_ne_zero hzero)
          (by rw [hn₁]; omega)
        rw [hn₁, ← Nat.add_assoc] at hrest
        apply hrest.mono
        rintro ⟨visits, next⟩ s' ⟨hsame', hturn, hnext'⟩
        refine ⟨trans_of SameTurn hsame hsame', hturn.cons rfl (by simp [Visit.cleared, hrunning])
          hsound hattends, ?_⟩
        have hnext' : next = (stop + j + 1 + visits.length) % n := hnext'
        show next = (stop + j + (visits.length + 1)) % n
        rw [hnext', Nat.add_assoc, Nat.add_comm 1]

end Loop

/-- What one event with an empty queue does. -/
structure ServedInTurn (t t' : Transport) (visits : List Visit) : Prop where
  inTurn : InTurn t.nChannels t.turn t.nChannels visits
  nChannels : t'.nChannels = t.nChannels
  /-- It goes on with the successor of the last slot. -/
  currentChannelSid : t'.currentChannelSid = (t.turn + visits.length) % t.nChannels

theorem Transport.turn_lt {t : Transport} (h : 0 < t.nChannels) : t.turn < t.nChannels := by
  unfold Transport.turn
  split
  · exact h
  · next hlt => exact not_le.mp hlt

/-- **One event.** -/
theorem senderDryEvent_servedInTurn {t : Transport} (h : 0 < t.nChannels)
    (hempty : t.bufferedMessagesOutgoing = []) :
    (senderDryEventVisits.run t).AlwaysUnder SameTurn anyAnswer fun visits t' =>
      ServedInTurn t t' visits := by
  have hstop := Transport.turn_lt h
  simp only [senderDryEventVisits, Routine.run_bind, Routine.run_get, Prog.bind, Routine.run_ite,
    if_neg (not_not.mpr hempty), Routine.run_modify, Prog.alwaysUnder_bind]
  set t₁ : Transport := { t with flags := { t.flags with bufferedAmountLow := true } } with ht₁
  have hloop := senderDryLoop_inTurn (s := t₁) (j := 0) hstop hempty h (Nat.zero_add _)
  have hstart : (t.turn + 0) % t₁.nChannels = t.turn := Nat.mod_eq_of_lt hstop
  rw [hstart] at hloop
  apply hloop.mono
  rintro ⟨visits, next⟩ t' ⟨hsame, hturn, hnext⟩
  exact ⟨hturn, hsame.nChannels, hnext⟩

/-- While messages are waiting nothing is done. -/
theorem senderDryEvent_waiting {t : Transport} (hwaiting : t.bufferedMessagesOutgoing ≠ []) :
    senderDryEventVisits.run t = .ret [] t := by
  simp only [senderDryEventVisits, Routine.run_bind, Routine.run_get, Prog.bind, Routine.run_ite,
    if_pos hwaiting, Routine.run_pure]

/-! ## Section 6: Many events -/

/-- A series of events, and of whatever else happens between them. -/
inductive Series (t : Transport) : List Visit → Transport → Prop where
  | start : Series t [] t
  | meanwhile {visits : List Visit} {t' t'' : Transport} :
      Series t visits t' → SameTurn t' t'' → Series t visits t''
  | event {visits visits' : List Visit} {t' t'' : Transport} :
      Series t visits t' →
      (senderDryEventVisits.run t').OutcomeUnder SameTurn anyAnswer visits' t'' →
      Series t (visits ++ visits') t''

/-- What a series of events leaves behind. -/
structure GoesRound (t : Transport) (visits : List Visit) (t' : Transport) : Prop where
  slots : visits.map Visit.slot = cyclic t.nChannels t.turn visits.length
  nChannels : t'.nChannels = t.nChannels
  turn : t'.turn = (t.turn + visits.length) % t.nChannels
  sound : ∀ v ∈ visits, v.Sound
  attends : ∀ v ∈ visits, v.Attends

/-- One more event. -/
theorem GoesRound.event {t t' t'' : Transport} {visits visits' : List Visit}
    (h : GoesRound t visits t') (hpos : 0 < t.nChannels)
    (hevent : (senderDryEventVisits.run t').OutcomeUnder SameTurn anyAnswer visits' t'') :
    GoesRound t (visits ++ visits') t'' := by
  by_cases hempty : t'.bufferedMessagesOutgoing = []
  · have hn : 0 < t'.nChannels := h.nChannels ▸ hpos
    have hserved := Prog.alwaysUnder_iff.mp (senderDryEvent_servedInTurn hn hempty) _ _ hevent
    -- the event starts where the visits so far have ended
    have hslots' := hserved.inTurn.slots
    rw [h.nChannels, h.turn, cyclic_mod] at hslots'
    have hnext := hserved.currentChannelSid
    rw [h.nChannels, h.turn, Nat.mod_add_mod, Nat.add_assoc] at hnext
    have hn'' : t''.nChannels = t.nChannels := hserved.nChannels.trans h.nChannels
    refine ⟨?_, hn'', ?_, ?_, ?_⟩
    · rw [List.map_append, List.length_append, cyclic_add, h.slots, hslots']
    · have hlt : (t.turn + (visits.length + visits'.length)) % t.nChannels < t.nChannels :=
        Nat.mod_lt _ hpos
      rw [Transport.turn, hn'', hnext, if_neg (not_le.mpr hlt), List.length_append]
    · intro v hv
      rcases List.mem_append.mp hv with hv | hv
      · exact h.sound v hv
      · exact hserved.inTurn.sound v hv
    · intro v hv
      rcases List.mem_append.mp hv with hv | hv
      · exact h.attends v hv
      · exact hserved.inTurn.attends v hv
  · -- messages wait, so nothing is visited
    rw [senderDryEvent_waiting hempty] at hevent
    cases hevent
    rwa [List.append_nil]

/-- Every series of events. -/
theorem Series.goesRound {t t' : Transport} {visits : List Visit} (hpos : 0 < t.nChannels)
    (h : Series t visits t') : GoesRound t visits t' := by
  induction h with
  | start =>
    refine ⟨rfl, rfl, ?_, fun v hv => absurd hv List.not_mem_nil,
      fun v hv => absurd hv List.not_mem_nil⟩
    exact (Nat.mod_eq_of_lt (Transport.turn_lt hpos)).symm
  | meanwhile _ hsame ih =>
    exact ⟨ih.slots, hsame.nChannels.trans ih.nChannels, hsame.turn.trans ih.turn, ih.sound,
      ih.attends⟩
  | event _ hevent ih => exact ih.event hpos hevent

/-- As many visits in a row as there are slots come to every slot. -/
theorem GoesRound.covers {t t' : Transport} {before round after : List Visit}
    (h : GoesRound t (before ++ round ++ after) t') (hround : round.length = t.nChannels) {i : Nat}
    (hi : i < t.nChannels) : ∃ v ∈ round, v.slot = i := by
  have hslots := h.slots
  rw [List.length_append, List.length_append, cyclic_add, cyclic_add, List.map_append,
    List.map_append] at hslots
  obtain ⟨hfront, -⟩ := List.append_inj hslots (by simp)
  obtain ⟨-, hmiddle⟩ := List.append_inj hfront (by simp)
  rw [hround] at hmiddle
  have hmem := mem_cyclic (i := t.turn + before.length) hi
  rw [← hmiddle] at hmem
  obtain ⟨v, hv, hslot⟩ := List.mem_map.mp hmem
  exact ⟨v, hv, hslot⟩

/-! ## Section 7: Fairness -/

/-- The service is a fair round robin. -/
structure FairRoundRobin (t : Transport) : Prop where
  /-- What is taken down about the visits does not matter to the code. -/
  code : ∀ s, handleSenderDryEvent.run s =
    (senderDryEventVisits.run s).bind fun _ s' => .ret () s'
  /-- One event with an empty queue. -/
  event : t.bufferedMessagesOutgoing = [] →
    (senderDryEventVisits.run t).AlwaysUnder SameTurn anyAnswer fun visits t' =>
      ServedInTurn t t' visits
  once : ∀ visits, InTurn t.nChannels t.turn t.nChannels visits → (visits.map Visit.slot).Nodup
  /-- Any series of events. -/
  cyclic : ∀ visits t', Series t visits t' →
    visits.map Visit.slot = cyclic t.nChannels t.turn visits.length
  /-- Every registered channel that is visited is served. -/
  attends : ∀ visits t', Series t visits t' → ∀ v ∈ visits, v.Attends
  /-- In as many visits in a row as there are slots, every registered channel is served. -/
  served : ∀ before round after t', Series t (before ++ round ++ after) t' →
    round.length = t.nChannels → ∀ i c, i < t.nChannels →
      (∀ v ∈ round, v.before.channels i = some c) → ∃ v ∈ round, v.slot = i ∧ v.Serves c
  sound : ∀ visits t', Series t visits t' → ∀ v ∈ visits, v.Sound
  inRange : ∀ visits t', Series t visits t' → ∀ v ∈ visits,
    v.slot < t.nChannels ∧ v.slot + 1 < 2 ^ 16

/-- **The service of the channels is a fair round robin**, for any number of slots. -/
theorem fairRoundRobin {t : Transport} (h : 0 < t.nChannels) : FairRoundRobin t where
  code := run_handleSenderDryEvent
  event hempty := senderDryEvent_servedInTurn h hempty
  once visits hturn := by
    rw [hturn.slots]
    exact nodup_cyclic hturn.length_le
  cyclic _ _ hseries := (hseries.goesRound h).slots
  attends _ _ hseries := (hseries.goesRound h).attends
  served before round after t' hseries hround i c hi hc := by
    have hgoes := hseries.goesRound h
    obtain ⟨v, hv, rfl⟩ := hgoes.covers hround hi
    have hvisits : v ∈ before ++ round ++ after :=
      List.mem_append_left _ (List.mem_append_right _ hv)
    exact ⟨v, hv, rfl, hgoes.attends v hvisits c (hc v hv)⟩
  sound _ _ hseries := (hseries.goesRound h).sound
  inRange visits t' hseries v hv := by
    have hmem : v.slot ∈ visits.map Visit.slot := List.mem_map_of_mem hv
    rw [(hseries.goesRound h).slots] at hmem
    have hlt := lt_of_mem_cyclic h hmem
    have hle := t.nChannels_le
    exact ⟨hlt, by omega⟩

/-- A transport with an open channel. -/
theorem fairRoundRobin_withOpenChannel : FairRoundRobin Transport.withOpenChannel :=
  fairRoundRobin (by decide)

end RawrtcDataChannel
