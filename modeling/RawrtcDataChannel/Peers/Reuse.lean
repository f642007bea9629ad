import RawrtcDataChannel.Peers.Growing
import RawrtcDataChannel.Peers.Rest

/-!
# Streams that are used again

Both endpoints open and close channels any number of times. An endpoint gives up a channel when both
directions of its stream have been reset, and may use the stream again at once. The answer to the
last request of its peer may be under way at that time. As long as the OPEN message of the new
channel does not overtake that answer, the peer is ready for it, and nothing that is sent on the new
channel is taken for something on the old one.
-/

namespace RawrtcDataChannel

open Reentrant Streams

section Reuse

variable [MessageBuffer] {w w' : Connection} {e : Side} {sid : Nat} {i i' : Item ChannelId Message}
  {c : ChannelId} {m : Message} {o : Option (Side × Nat × Item ChannelId Message)}
  {passes passes' : Item ChannelId Message → Item ChannelId Message → Prop}

/-! ## Section 1: The order of answers -/

/-- Answers may be late: whatever is sent after them may be received before them. -/
def MayPass (i i' : Item ChannelId Message) : Prop :=
  i' = .response ∨ i.Overtakes i'

/-- No OPEN message is received while an answer is under way that has been sent before it. -/
def PassesInTime (i i' : Item ChannelId Message) : Prop :=
  MayPass i i' ∧ (i' = .response → i.proposes = false)

omit [MessageBuffer] in
/-- This is the order in which items have been received so far. -/
theorem passesInTime_iff : PassesInTime i i' ↔ i.Overtakes i' := by
  constructor
  · rintro ⟨rfl | hpasses, hproposes⟩
    · cases i with
      | message c m =>
        have hm : Vocabulary.proposal m = none := by simpa [Item.proposes] using hproposes rfl
        exact hm
      | reset => rfl
      | response => trivial
    · exact hpasses
  · intro hpasses
    refine ⟨.inr hpasses, ?_⟩
    rintro rfl
    cases i with
    | message c m =>
      have hm : Vocabulary.proposal m = none := hpasses
      simp [Item.proposes, hm]
    | reset | response => rfl

namespace Connection

/-! ## Section 2: Runs -/

/-- The connections of all runs in which items are received in this order. -/
inductive Reused (passes : Item ChannelId Message → Item ChannelId Message → Prop) :
    Connection → Prop where
  | created (dataChannelHandler destroyedHandler traceHandle : Side → Bool)
      (usrsctpChunkSize maxMessageSize : Side → Nat) :
      Reused passes (created dataChannelHandler destroyedHandler traceHandle usrsctpChunkSize
        maxMessageSize)
  | step {w w' : Connection} {o : Option (Side × Nat × Item ChannelId Message)} :
      Reused passes w → Goes (.full openerOf) passes w o w' → Reused passes w'

/-- The channel has used the stream after equally many others as its counterpart at the other end,
    and it has not been among them. -/
def Counterparts (w : Connection) (e : Side) (sid : Nat) (c' c : ChannelId) : Prop :=
  ∃ before before', (w.ends e).state.party.users sid = before ++ [c'] ∧ c' ∉ before ∧
    (w.ends e.other).state.party.users sid = before' ++ [c] ∧ before.length = before'.length

/-- What has to be true of a step in which something of an item may be received. -/
structure ReusesSafely (w : Connection) (o : Option (Side × Nat × Item ChannelId Message))
    (w' : Connection) : Prop where
  /-- An OPEN message is accepted by a new channel, with the parameters in it. -/
  accepts : ∀ ⦃e sid c m parameters⦄, o = some (e, sid, .message c m) → m.isDcep = true →
    openParameters m.bytes = some parameters →
    ∃ c', (w.ends e).state.channels sid ≠ some c' ∧ (w'.ends e).state.channels sid = some c' ∧
      ((w'.ends e).state.dataChannels c').parameters.terms = parameters.terms
  /-- No handler is called but the message handler of the counterpart of its sender. -/
  delivers : ∀ ⦃e sid c m⦄, o = some (e, sid, .message c m) → m.isDcep = false →
    ∀ f ∈ (w'.ends e).stack, ∃ c' bytes messageFlags,
      f.op = .handler (.messageHandler c' bytes messageFlags) ∧ w.Counterparts e sid c' c
  /-- Whatever either end has sent has been given to usrsctp or waits in the queue. -/
  forwards : ∀ e, (w.ends e).state.Forwards

/-- What holds in all runs in which answers are in time. -/
structure Punctual (w : Connection) : Prop extends Carried (.full openerOf) w where
  fresh : ∀ e, (w.net.party e).Fresh

theorem Goes.mono (hpasses : ∀ i i', passes i i' → passes' i i')
    {free : Side → Freedom} (hstep : Goes free passes w o w') : Goes free passes' w o w' := by
  cases hstep with
  | runs e d hruns => exact .runs _ _ _ hruns
  | receives e sid i pre post d hidle hflight hpre hwhole hreceives =>
    exact .receives _ _ _ _ _ _ _ hidle hflight (fun i' hi' => hpasses _ _ (hpre i' hi')) hwhole
      hreceives
  | receivesPart e sid c m pre post bytes d hidle hflight hpre huser hreceives =>
    exact .receivesPart _ _ _ _ _ _ _ _ _ hidle hflight (fun i' hi' => hpasses _ _ (hpre i' hi'))
      huser hreceives
  | receivesEnd e sid c m pre post bytes d hidle hflight hpre huser hreceives =>
    exact .receivesEnd _ _ _ _ _ _ _ _ _ hidle hflight (fun i' hi' => hpasses _ _ (hpre i' hi'))
      huser hreceives
  | loses e sid c m pre post hflight hm => exact .loses _ _ _ _ _ _ _ hflight hm

theorem Punctual.step (h : w.Punctual) (hstep : Goes (.full openerOf) Item.Overtakes w o w') :
    w'.Punctual := by
  obtain ⟨hadvances, hcarried⟩ := h.toCarried.step (fun _ _ _ => id) hstep
  exact ⟨hcarried, Net.fresh_advances h.fresh hadvances⟩

theorem Reused.punctual (h : Reused PassesInTime w) : w.Punctual := by
  induction h with
  | created =>
    exact ⟨carried_created _ _ _ _ _ _, (vacant_created _ _ _ _ _).fresh⟩
  | step _ hstep ih => exact ih.step (hstep.mono fun _ _ => passesInTime_iff.mp)

/-! ## Section 3: Results -/

/-- A message, or a part of it, is handed to the counterpart of its sender. -/
theorem Punctual.hands (h : w.Punctual) {pre post : List (Item ChannelId Message)} {bytes : Bytes}
    {eor : Bool} {d : Config Call Op Op.Reply Transport Result} (hidle : (w.ends e).stack = [])
    (hflight : w.flight e.other sid = pre ++ .message c m :: post)
    (hpre : ∀ i' ∈ pre, (Item.message c m).Overtakes i') (huser : m.isDcep = false)
    (htakes : TakesPart e sid m bytes eor (w.ends e) d) (hend : w'.ends e = d) :
    w.ReusesSafely (some (e, sid, .message c m)) w' := by
  obtain ⟨hm, -⟩ := h.finds hflight hpre huser
  obtain ⟨r, y, hr, -, hsent, -, -, before, before', husers, husers', hlength⟩ :=
    h.net.hears hflight hpre hm
  obtain ⟨hslot, -⟩ := slot_of_streams hr
  have hnodup := h.fresh e sid
  rw [husers] at hnodup
  have hnew : r.channel ∉ before := fun hmem =>
    (List.disjoint_of_nodup_append hnodup) hmem (List.mem_singleton.mpr rfl)
  refine ⟨?_, ?_, h.forwards⟩
  · intro e' sid' c m parameters heq hdcep
    cases heq
    rw [huser] at hdcep
    cases hdcep
  · intro e' sid' c m heq _ f hf
    cases heq
    rw [hend] at hf
    obtain ⟨bytes, messageFlags, hop⟩ := htakes.handsTo hidle hslot huser f hf
    exact ⟨r.channel, bytes, messageFlags, hop, before, before', husers, hnew, hsent ▸ husers',
      hlength⟩

theorem Punctual.goes_safely (h : w.Punctual)
    (hstep : Goes (.full openerOf) Item.Overtakes w o w') : w.ReusesSafely o w' := by
  cases hstep with
  | runs | loses =>
    exact ⟨fun _ _ _ _ _ heq => (by cases heq), fun _ _ _ _ heq => (by cases heq), h.forwards⟩
  | receives e sid i pre post d hidle hflight hpre hwhole hreceives =>
    have hend : ((w.take e sid i (pre ++ post)).proceed e d).ends e = d :=
      Function.update_self _ _ _
    refine ⟨?_, ?_, h.forwards⟩
    · intro e' sid' c m parameters heq hdcep hparse
      cases heq
      obtain ⟨hfree, -, -, c', -, -, ⟨hslot, hterms⟩, -⟩ := opens h.net h.paused hidle hflight hpre
        hdcep hparse hreceives
      rw [hend]
      exact ⟨c', by simp [hfree], hslot, hterms⟩
    · intro e' sid' c m heq huser
      cases heq
      -- messages of the application come in parts
      exact (hwhole c m rfl huser).elim
  | receivesPart e sid c m pre post bytes d hidle hflight hpre huser hreceives =>
    exact h.hands hidle hflight hpre huser hreceives (Function.update_self _ _ _)
  | receivesEnd e sid c m pre post bytes d hidle hflight hpre huser hreceives =>
    exact h.hands hidle hflight hpre huser hreceives (Function.update_self _ _ _)

/-- **Streams are reused safely** in every run in which no OPEN message overtakes an answer. -/
theorem Reused.reuses_safely (h : Reused PassesInTime w)
    (hstep : Goes (.full openerOf) PassesInTime w o w') : w.ReusesSafely o w' :=
  h.punctual.goes_safely (hstep.mono fun _ _ => passesInTime_iff.mp)

theorem Reused.enter (h : Reused passes w) {a : Call}
    (ha : Permitted (pending (w.ends e).stack) (w.ends e).state a) : Reused passes (w.enter e a) :=
  h.step (goes_enter ha (a.free_full e))

theorem Reused.receive (h : Reused passes w) {post : List (Item ChannelId Message)}
    (hidle : (w.ends e).stack = []) (hflight : w.flight e.other sid = i :: post)
    (hwhole : ReadsWhole .piecewise i) : Reused passes (w.receive e sid) :=
  h.step (goes_receive hidle hflight hwhole)

omit [MessageBuffer] in
/-- Requests and answers are received as a whole. -/
theorem readsWhole_reset {S : Setting} : ReadsWhole S .reset :=
  fun _ _ heq => by cases heq

omit [MessageBuffer] in
theorem readsWhole_response {S : Setting} : ReadsWhole S .response :=
  fun _ _ heq => by cases heq

omit [MessageBuffer] in
/-- The client has given up a channel, and its last answer is under way. -/
theorem reused_clientClosed : @Reused listMessageBuffer passes clientClosed := by
  have hopening : @Reused listMessageBuffer passes opening :=
    @Reused.enter listMessageBuffer _ .client passes (@Reused.created listMessageBuffer _ _ _ _ _ _)
      (.create .plain {}) ⟨fun f hf => (by cases hf), rfl⟩
  have haccepted : @Reused listMessageBuffer passes accepted :=
    @Reused.receive listMessageBuffer opening .server 0 _ passes hopening _ rfl rfl
      (readsWhole_of_dcep rfl)
  have hclosing : @Reused listMessageBuffer passes closing :=
    @Reused.enter listMessageBuffer accepted .client passes haccepted (.close 0)
      ⟨fun f hf => (by cases hf), fun b hb => by cases hb⟩
  have hboth : @Reused listMessageBuffer passes bothClosing :=
    @Reused.receive listMessageBuffer closing .server 0 _ passes hclosing _ rfl rfl
      readsWhole_reset
  have hack := @Reused.receive listMessageBuffer bothClosing .client 0 _ passes hboth _ rfl rfl
    (readsWhole_of_dcep rfl)
  have hanswered := @Reused.receive listMessageBuffer _ .client 0 _ passes hack _ rfl rfl
    readsWhole_response
  exact @Reused.receive listMessageBuffer _ .client 0 _ passes hanswered _ rfl rfl
    readsWhole_reset

/-- The server has given up the channel, too, and the client has opened another one. -/
def reopening : Connection :=
  @enter listMessageBuffer bothClosed .client (.create .plain {})

omit [MessageBuffer] in
theorem reused_reopening : @Reused listMessageBuffer PassesInTime reopening := by
  have hclosed : @Reused listMessageBuffer PassesInTime bothClosed :=
    @Reused.receive listMessageBuffer clientClosed .server 0 _ PassesInTime reused_clientClosed _
      rfl rfl readsWhole_response
  exact @Reused.enter listMessageBuffer bothClosed .client PassesInTime hclosed (.create .plain {})
    ⟨fun f hf => (by cases hf), rfl⟩

omit [MessageBuffer] in
/-- The server accepts the new channel. -/
theorem reuses_safely_reopening : ∃ c',
    ((@receive listMessageBuffer reopening .server 0).ends .server).state.channels 0 = some c' := by
  have hparse : openParameters (openMessageBytes .plain) = some .plain := by decide +kernel
  obtain ⟨c', -, hslot, -⟩ := (@Reused.reuses_safely listMessageBuffer reopening _ _
    reused_reopening (@goes_receive listMessageBuffer reopening .server 0 _ [] _ _ rfl rfl
      (readsWhole_of_dcep rfl))).accepts rfl rfl hparse
  exact ⟨c', hslot⟩

/-- The client has opened another channel on the stream while its last answer is under way. -/
def hurried : Connection :=
  @enter listMessageBuffer clientClosed .client (.create .plain {})

omit [MessageBuffer] in
/-- If the OPEN message overtakes the answer, it finds the old channel of the server. -/
theorem not_reuses_safely : ¬ ∀ ⦃w o w'⦄, @Reused listMessageBuffer MayPass w →
    @Goes listMessageBuffer (.full openerOf) MayPass w o w' → w.ReusesSafely o w' := by
  intro h
  have hhurried : @Reused listMessageBuffer MayPass hurried :=
    @Reused.enter listMessageBuffer clientClosed .client MayPass reused_clientClosed
      (.create .plain {}) ⟨fun f hf => (by cases hf), rfl⟩
  have hflight : hurried.flight .client 0 = [.response] ++ .message 1 .plainOpen :: [] := rfl
  have hpre : ∀ i' ∈ [Item.response], MayPass (.message 1 .plainOpen) i' := by
    intro i' hi'
    exact .inl (List.mem_singleton.mp hi')
  have hgoes := @Goes.receives listMessageBuffer (.full openerOf) MayPass hurried .server 0
    (.message 1 .plainOpen) [.response] [] _ rfl hflight hpre (readsWhole_of_dcep rfl)
    (@receives_enter listMessageBuffer hurried .server 0 (.message 1 .plainOpen) rfl)
  have hparse : openParameters Message.plainOpen.bytes = some .plain := by decide +kernel
  obtain ⟨c', hnew, hslot, -⟩ := (h hhurried hgoes).accepts rfl rfl hparse
  -- the slot is still occupied by the first channel, and it stays so
  exact hnew hslot

end Connection

end Reuse

end RawrtcDataChannel
